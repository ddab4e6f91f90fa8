import CpuBench.Config.Suite
import CpuBench.Text.Debug
import CpuBench.Text.Case
import CpuBench.Fault
import CpuBench.Word

/-!
# Layered settings

Settings come in layers — built-in defaults, then a file, then the environment — each a tree of
values whose tables map names to values. Every value remembers where it came from (its
*origin*: the file, the environment, or nothing for defaults and for tables made while merging).

## Merging

A layer is laid over the settings key by key. A key is a path: a name, then steps `.b` (the
entry `b` of a table) and `[i]` (position `i` of an array, negative positions counting back from
the end), where names are made of ASCII letters, digits, spaces, `_` and `-`; any other key is
taken whole. A position past the end grows the array with empty values. Positions are unsigned
64-bit words, so a negative position reaching past the front wraps around to a huge one, and the
array cannot grow that far: loading then halts.

Tables merge deeply: a table laid over a name walks into the value already there and sets its
keys one by one, turning a value that is not a table into an empty table first — so an empty
table changes nothing, and a table laid over a number replaces it only if it has keys. Any other
value replaces what was there.

## Reading the suite settings

* `iterations` must be a whole number of at most 32 bits. Integers must not be negative; strings
  are `true`/`on`/`yes` (1), `false`/`off`/`no` (0), or decimal digits; booleans count as 0 or 1;
  floats are rounded half away from zero and clamped into 64 bits.
* `output_dir` and `log_level` are text: strings as they are, booleans and numbers written out.
* `format` names a format in any case, as a string or as the one key of a table.

An error names the value found, what was expected, the key, and the value's origin when it has
one.
-/

namespace CpuBench.Config

/-- A settings value with its origin. -/
inductive Setting where
  | nil (origin : Option String)
  | bool (origin : Option String) (b : Bool)
  | int (origin : Option String) (i : Int)
  | float (origin : Option String) (x : Float)
  | str (origin : Option String) (s : String)
  | array (origin : Option String) (items : List Setting)
  | table (origin : Option String) (entries : List (String × Setting))
  deriving Inhabited

/-- Where a value came from. -/
def Setting.origin : Setting → Option String
  | .nil o | .bool o _ | .int o _ | .float o _ | .str o _ | .array o _ | .table o _ => o

/-- A value of an unexpected kind, as an error shows it. -/
inductive Unexpected where
  | bool (b : Bool)
  | int (i : Int)
  | uint (n : Nat)
  | float (x : Float)
  | str (s : String)
  | unit
  | seq
  | map

/-- How an error shows an unexpected value. -/
def Unexpected.text : Unexpected → String
  | .bool b => "boolean `" ++ (if b then "true" else "false") ++ "`"
  | .int i => "64-bit integer `" ++ toString i ++ "`"
  | .uint n => "64-bit unsigned integer `" ++ Nat.repr n ++ "`"
  | .float x => "floating point `" ++ Decimal.Notation.plain.render x ++ "`"
  | .str s => "string " ++ Text.quote s
  | .unit => "unit value"
  | .seq => "sequence"
  | .map => "map"

/-- Why settings could not be loaded. -/
inductive LoadError where
  /-- A value of the wrong kind, for a key, from an origin. -/
  | invalidType (origin : Option String) (found : Unexpected) (expected : String)
      (key : Option String)
  /-- A message of its own. -/
  | message (text : String)
  /-- A file that could not be read as its format, with the reader's error. -/
  | fileParse (cause : String) (uri : String)

/-- The text of a loading error. -/
def LoadError.text : LoadError → String
  | .invalidType origin found expected key =>
    "invalid type: " ++ found.text ++ ", expected " ++ expected ++
      (match key with | some k => " for key `" ++ k ++ "`" | none => "") ++
      (match origin with | some o => " in " ++ o | none => "")
  | .message t => t
  | .fileParse cause uri => cause ++ " in " ++ uri

/-- Names the key of an error about a value. -/
def LoadError.forKey (key : String) : LoadError → LoadError
  | .invalidType origin found expected _ => .invalidType origin found expected (some key)
  | e => e

/-- Whether a character may stand in a name of a key path: an ASCII letter or digit, a space,
`_` or `-`. -/
def isPathChar (c : Char) : Bool :=
  c.isAlphanum || c == ' ' || c == '_' || c == '-'

/-- One step of a key path: a name inside a table, or a position inside an array, where a
negative position counts back from the end. -/
inductive PathStep where
  | name (k : String)
  | index (i : Int)
  deriving DecidableEq, Repr

/-- Whether `n` fits a signed 64-bit word. -/
def fitsI64 (n : Int) : Bool :=
  -(Nat.pow 2 63 : Int) ≤ n && n < (Nat.pow 2 63 : Int)

/-- Drops the spaces and tabs at the front of `cs`. -/
def dropBlanks (cs : List Char) : List Char :=
  cs.dropWhile fun c => c == ' ' || c == '\t'

/-- Reads the inside of a subscript and its closing bracket: blanks, an optional `-`, decimal
digits, blanks, then `]`. The number must fit a signed 64-bit word. -/
def readIndex (cs : List Char) : Option (Int × List Char) :=
  let cs := dropBlanks cs
  let (negative, cs) := match cs with
    | '-' :: rest => (true, rest)
    | rest => (false, rest)
  let digits := cs.takeWhile Char.isDigit
  let magnitude : Nat := digits.foldl (fun acc c => acc * 10 + (c.toNat - 48)) 0
  let value : Int := if negative then -(magnitude : Int) else magnitude
  if digits.isEmpty || !fitsI64 value then none
  else match dropBlanks (cs.dropWhile Char.isDigit) with
    | ']' :: rest => some (value, rest)
    | _ => none

/-- Reads the steps that follow the first name of a path: `.name` or `[index]`, as long as there
is text. `fuel` bounds the number of steps; every step reads at least one character. -/
def readSteps : Nat → List Char → Option (List PathStep)
  | _, [] => some []
  | 0, _ :: _ => none
  | fuel + 1, '.' :: rest =>
    let part := rest.takeWhile isPathChar
    if part.isEmpty then none
    else (PathStep.name (String.ofList part) :: ·) <$> readSteps fuel (rest.dropWhile isPathChar)
  | fuel + 1, '[' :: rest => do
    let (i, rest) ← readIndex rest
    (PathStep.index i :: ·) <$> readSteps fuel rest
  | _ + 1, _ :: _ => none

/-- The path a key names: a name of path characters followed by `.name` and `[index]` steps.
A key that does not read so names one entry, the key whole. -/
def keyPath (key : String) : List PathStep :=
  let cs := key.toList
  let first := cs.takeWhile isPathChar
  let whole := [PathStep.name key]
  if first.isEmpty then whole
  else match readSteps cs.length (cs.dropWhile isPathChar) with
    | some steps => .name (String.ofList first) :: steps
    | none => whole

/-- The value of key `k` in a table's entries. -/
def lookupSetting (k : String) (entries : List (String × Setting)) : Option Setting :=
  (entries.find? (·.1 == k)).map (·.2)

/-- Sets key `k` in a table's entries: in place when present, at the end otherwise. -/
def upsertSetting (k : String) (v : Setting) (entries : List (String × Setting)) :
    List (String × Setting) :=
  if entries.any (·.1 == k) then entries.map fun e => if e.1 == k then (k, v) else e
  else entries ++ [(k, v)]

/-- The origin and entries of a value taken as a table: a value that is not a table counts as an
empty table with no origin. -/
def asTable : Setting → Option String × List (String × Setting)
  | .table o entries => (o, entries)
  | _ => (none, [])

/-- The origin and items of a value taken as an array: a value that is not an array counts as an
empty array with no origin. -/
def asArray : Setting → Option String × List Setting
  | .array o items => (o, items)
  | _ => (none, [])

/-- Where a position of an array of `len` items points, as an unsigned 64-bit word: a negative
position counts back from the end, wrapping around when it reaches past the front. -/
def slotOf (i : Int) (len : Nat) : Nat :=
  if 0 ≤ i then i.toNat else (len + Word.u64Size - i.natAbs) % Word.u64Size

/-- The bytes one array item takes in the settings store. -/
def itemBytes : Nat := 96

/-- The most items an array of settings may be given in one go: more than this asks for more
storage than the machine has. -/
def itemLimit : Nat := Nat.pow 2 28

/-- The items of an array grown so that `slot` is a position in it, new places holding nothing.
Growing to `slot + 1` items wraps to zero items for the last word, which leaves no place at all;
more items than an address can count, or than the machine holds, cannot be laid out. -/
def reachSlot (items : List Setting) (slot : Nat) : Except Halt (List Setting) :=
  if slot < items.length then .ok items
  else if slot + 1 = Word.u64Size then
    .error ⟨"index out of bounds: the len is 0 but the index is " ++ Nat.repr slot⟩
  else if (slot + 1) * itemBytes > Nat.pow 2 63 - 16 then .error ⟨"capacity overflow"⟩
  else if slot + 1 > itemLimit then
    .error ⟨"memory allocation of " ++ Nat.repr ((slot + 1) * itemBytes) ++ " bytes failed"⟩
  else .ok (items ++ List.replicate (slot + 1 - items.length) (.nil none))

mutual

/-- Lays `v` over the name `k` of `root`, which is first made a table. A table walks into what
is there and sets its keys one by one; anything else replaces it. -/
def setName (root : Setting) (k : String) : Setting → Setting
  | .table _ incoming =>
    let (o, entries) := asTable root
    let target := (lookupSetting k entries).getD (.table none [])
    .table o (upsertSetting k (setEach target incoming) entries)
  | v =>
    let (o, entries) := asTable root
    .table o (upsertSetting k v entries)

/-- Lays each entry over `target` in turn. -/
def setEach (target : Setting) : List (String × Setting) → Setting
  | [] => target
  | (k, v) :: rest => setEach (setName target k v) rest

end

/-- Lays `v` over the place `path` names in `root`. Names walk into tables and positions into
arrays, turning what is on the way into an empty table or array when it is not one, and
creating missing entries; the last name is set as `setName` does, the last position is
replaced. -/
def setPath (root : Setting) (v : Setting) : List PathStep → Except Halt Setting
  | [] => .ok root
  | [.name k] => .ok (setName root k v)
  | .name k :: rest => do
    let (o, entries) := asTable root
    let child := (lookupSetting k entries).getD (.nil none)
    pure (.table o (upsertSetting k (← setPath child v rest) entries))
  | .index i :: rest => do
    let (o, items) := asArray root
    let slot := slotOf i items.length
    let items ← reachSlot items slot
    match rest with
    | [] => pure (.array o (items.set slot v))
    | _ => pure (.array o (items.set slot (← setPath (items.getD slot (.nil none)) v rest)))

/-- Lays a layer's top-level entries over the settings in turn, each key read as a path. -/
def layer (root : Setting) (entries : List (String × Setting)) : Except Halt Setting :=
  entries.foldlM (fun acc (k, v) => setPath acc v (keyPath k)) root

/-- The largest value a 64-bit unsigned integer holds. -/
def u64Max : Nat := Nat.pow 2 64 - 1

/-- A decimal number of at most 64 bits, with an optional `+`. -/
def parseU64 (s : String) : Option Nat :=
  let ds := match s.toList with
    | '+' :: rest => rest
    | all => all
  if !ds.isEmpty && ds.all Char.isDigit then
    let n := ds.foldl (fun acc c => acc * 10 + (c.toNat - 48)) 0
    if n ≤ u64Max then some n else none
  else none

/-- The value as an unsigned number of at most 64 bits. -/
def Setting.toU64 : Setting → Except LoadError Nat
  | .int o i =>
    if i < 0 then .error (.invalidType o (.int i) "an unsigned 64 bit or less integer" none)
    else .ok i.toNat
  | .str o s =>
    let lowered := Text.lowerText s
    if lowered == "true" || lowered == "on" || lowered == "yes" then .ok 1
    else if lowered == "false" || lowered == "off" || lowered == "no" then .ok 0
    else match parseU64 s with
      | some n => .ok n
      | none => .error (.invalidType o (.str s) "an integer" none)
  | .bool _ b => .ok (if b then 1 else 0)
  | .float _ x => .ok x.round.toUInt64.toNat
  | .nil o => .error (.invalidType o .unit "an integer" none)
  | .table o _ => .error (.invalidType o .map "an integer" none)
  | .array o _ => .error (.invalidType o .seq "an integer" none)

/-- The value as an unsigned number of at most 32 bits. -/
def Setting.toU32 (v : Setting) : Except LoadError Nat := do
  let n ← v.toU64
  if n < Nat.pow 2 32 then pure n
  else throw (.invalidType none (.uint n) "an unsigned 32 bit integer" none)

/-- The value as text. -/
def Setting.toText : Setting → Except LoadError String
  | .str _ s => .ok s
  | .bool _ b => .ok (if b then "true" else "false")
  | .int _ i => .ok (toString i)
  | .float _ x => .ok (Decimal.Notation.plain.render x)
  | .nil o => .error (.invalidType o .unit "a string" none)
  | .table o _ => .error (.invalidType o .map "a string" none)
  | .array o _ => .error (.invalidType o .seq "a string" none)

/-- The output format a value names: a string, or a table of one key, naming a format in any
case. -/
def Setting.toFormat : Setting → Except LoadError OutputFormat
  | .str _ s => byName s
  | .table _ [(k, _)] => byName k
  | _ => .error (.message
      "value of enum OutputFormat should be represented by either string or table with exactly one key")
where
  byName (s : String) : Except LoadError OutputFormat :=
    match OutputFormat.all.find? fun f => Text.lowerText f.name == Text.lowerText s with
    | some f => .ok f
    | none => .error (.message ("enum OutputFormat does not have variant constructor " ++ s))

/-- The value of a field of the settings, read by `read`, its errors naming the field. -/
def readField (entries : List (String × Setting)) (name : String)
    (read : Setting → Except LoadError α) : Except LoadError α :=
  match lookupSetting name entries with
  | some v => (read v).mapError (LoadError.forKey name)
  | none => .error (.message ("missing field `" ++ name ++ "`"))

/-- The suite settings read from the merged settings. -/
def Setting.toSuite (root : Setting) : Except LoadError Suite := do
  let (_, entries) := asTable root
  let iterations ← readField entries "iterations" Setting.toU32
  let outputDir ← readField entries "output_dir" Setting.toText
  let format ← readField entries "format" Setting.toFormat
  let logLevel ← readField entries "log_level" Setting.toText
  pure ⟨iterations, outputDir, format, logLevel⟩

/-- The built-in defaults, as the bottom layer. -/
def defaultLayer : Setting :=
  let d := Suite.default
  .table none [("iterations", .int none d.iterations), ("output_dir", .str none d.outputDir),
    ("format", .str none d.format.name), ("log_level", .str none d.logLevel)]

end CpuBench.Config
