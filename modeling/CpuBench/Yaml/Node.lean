import CpuBench.Yaml.Event
import CpuBench.Decimal.Reading
import CpuBench.Text.Debug

/-!
# YAML documents

The last stage builds the documents of a stream from its events. A node is a scalar resolved
to null, a boolean, an integer, a real or a string; a sequence; or a mapping, which keeps its
keys in the order they appear. A key that repeats is an error, reported at the event that
completes its value (a scalar, an alias, or the end of a collection); only a fault in the
events themselves, wherever it stands, is reported before it. An alias stands for a copy of
the node its anchor was on, or for a bad value when that node is not complete.

A plain scalar without a tag resolves by its text:

* `0x` and `0o` followed by a signed hexadecimal or octal number of 64 bits is an integer, and
  so is `+` followed by a signed decimal one;
* `~` and `null` are null, `true` and `false` booleans;
* a signed decimal number of 64 bits is an integer;
* text that reads as a float, or one of `.inf`, `.Inf`, `.INF` with an optional sign and
  `.nan`, `NaN`, `.NAN`, is a real, kept as its text;
* anything else is a string.

The tags `bool`, `int`, `float` and `null` under the prefix `tag:yaml.org,2002:` ask for that
kind and give a bad value when the text is not one; other tags, and every quoted or block
scalar, give strings.
-/

namespace CpuBench.Yaml

/-- A node of a YAML document. -/
inductive Node where
  | null
  | boolean (b : Bool)
  | integer (i : Int)
  | real (text : String)
  | string (s : String)
  | sequence (items : List Node)
  | mapping (entries : List (Node × Node))
  | bad
  deriving Inhabited, Repr

mutual

/-- Whether two nodes are the same; mappings compare entry by entry, in order. -/
def Node.same : Node → Node → Bool
  | .null, .null => true
  | .boolean a, .boolean b => a == b
  | .integer a, .integer b => a == b
  | .real a, .real b => a == b
  | .string a, .string b => a == b
  | .sequence xs, .sequence ys => Node.sameItems xs ys
  | .mapping xs, .mapping ys => Node.sameEntries xs ys
  | .bad, .bad => true
  | _, _ => false

/-- Whether two lists of nodes are the same, item by item. -/
def Node.sameItems : List Node → List Node → Bool
  | [], [] => true
  | x :: xs, y :: ys => Node.same x y && Node.sameItems xs ys
  | _, _ => false

/-- Whether two lists of entries are the same, entry by entry. -/
def Node.sameEntries : List (Node × Node) → List (Node × Node) → Bool
  | [], [] => true
  | (a, b) :: xs, (c, d) :: ys => Node.same a c && Node.same b d && Node.sameEntries xs ys
  | _, _ => false

end

mutual

/-- How a node is written in a message: its kind and, in parentheses, its content. -/
def Node.describe : Node → String
  | .null => "Null"
  | .boolean b => "Boolean(" ++ toString b ++ ")"
  | .integer i => "Integer(" ++ toString i ++ ")"
  | .real t => "Real(" ++ Text.quote t ++ ")"
  | .string t => "String(" ++ Text.quote t ++ ")"
  | .sequence items => "Array([" ++ Node.describeItems items ++ "])"
  | .mapping entries => "Hash(\x7b" ++ Node.describeEntries entries ++ "\x7d)"
  | .bad => "BadValue"

/-- The items of a sequence as a message writes them, separated by `, `. -/
def Node.describeItems : List Node → String
  | [] => ""
  | [x] => Node.describe x
  | x :: xs => Node.describe x ++ ", " ++ Node.describeItems xs

/-- The entries of a mapping as a message writes them, `key: value` separated by `, `. -/
def Node.describeEntries : List (Node × Node) → String
  | [] => ""
  | [(k, v)] => Node.describe k ++ ": " ++ Node.describe v
  | (k, v) :: rest =>
    Node.describe k ++ ": " ++ Node.describe v ++ ", " ++ Node.describeEntries rest

end

/-- The value of a digit in bases up to 36; 36 for any other character. -/
def digitValue (c : Char) : Nat :=
  if c.isDigit then c.toNat - 48
  else if 'a' ≤ c && c ≤ 'z' then c.toNat - 87
  else if 'A' ≤ c && c ≤ 'Z' then c.toNat - 55
  else 36

/-- Whether `n` fits a signed 64-bit word. -/
def fitsWord (n : Int) : Bool :=
  -(Nat.pow 2 63 : Int) ≤ n && n < (Nat.pow 2 63 : Int)

/-- A whole number in base `radix` with an optional `+` or `-`, when it fits 64 signed bits. -/
def readInteger (radix : Nat) (s : String) : Option Int :=
  let (negative, digits) := match s.toList with
    | '+' :: rest => (false, rest)
    | '-' :: rest => (true, rest)
    | all => (false, all)
  if digits.isEmpty || !digits.all (digitValue · < radix) then none
  else
    let n := digits.foldl (fun acc c => acc * radix + digitValue c) 0
    let v : Int := if negative then -(n : Int) else n
    if fitsWord v then some v else none

/-- The texts of infinities and not-a-number that count as reals beside decimal floats. -/
def specialReals : List String :=
  [".inf", ".Inf", ".INF", "+.inf", "+.Inf", "+.INF", "-.inf", "-.Inf", "-.INF",
   ".nan", "NaN", ".NAN"]

/-- Whether a text resolves to a real. -/
def isRealText (s : String) : Bool :=
  specialReals.contains s || (Decimal.floatOfText? s).isSome

/-- The node a plain scalar without a tag stands for. -/
def Node.ofPlain (s : String) : Node :=
  let prefixed : Option Int :=
    if s.startsWith "0x" then readInteger 16 (s.drop 2).toString
    else if s.startsWith "0o" then readInteger 8 (s.drop 2).toString
    else if s.startsWith "+" then readInteger 10 (s.drop 1).toString
    else none
  match prefixed with
  | some i => .integer i
  | none =>
    if s == "~" || s == "null" then .null
    else if s == "true" then .boolean true
    else if s == "false" then .boolean false
    else match readInteger 10 s with
      | some i => .integer i
      | none => if isRealText s then .real s else .string s

/-- The node a scalar stands for, given its style and tag. -/
def Node.ofScalar (s : String) (style : ScalarStyle) (tag : Option Tag) : Node :=
  if style != .plain then .string s
  else match tag with
    | none => Node.ofPlain s
    | some (pfx, suffix) =>
      if pfx != "tag:yaml.org,2002:" then .string s
      else if suffix == "bool" then
        if s == "true" then .boolean true else if s == "false" then .boolean false else .bad
      else if suffix == "int" then
        match readInteger 10 s with
        | some i => .integer i
        | none => .bad
      else if suffix == "float" then (if isRealText s then .real s else .bad)
      else if suffix == "null" then (if s == "~" || s == "null" then .null else .bad)
      else .string s

/-- The documents built so far, the open collections with their anchors, the pending key of
each open mapping, the complete anchored nodes, and the first repeated key met. -/
structure Loader where
  documents : List Node := []
  stack : List (Node × Nat) := []
  keys : List Node := []
  anchored : List (Nat × Node) := []
  error : Option ScanError := none

/-- Puts a finished node, completed at `m`, into the open collection, or makes it the
document's root. A mapping takes nodes as key and value in turn; a key it has already is an
error at `m`, and its value is left out. -/
def Loader.insert (l : Loader) (m : Mark) (n : Node) (anchor : Nat) : Loader :=
  let l := if anchor > 0 then { l with anchored := (anchor, n) :: l.anchored } else l
  match l.stack with
  | [] => { l with stack := [(n, anchor)] }
  | (.sequence items, a) :: rest => { l with stack := (.sequence (items ++ [n]), a) :: rest }
  | (.mapping entries, a) :: rest =>
    match l.keys with
    | .bad :: ks => { l with keys := n :: ks }
    | k :: ks =>
      match entries.find? (Node.same k ·.1) with
      | some (old, _) =>
        { l with keys := .bad :: ks,
                 error := some ⟨m, old.describe ++ ": duplicated key in mapping"⟩ }
      | none => { l with stack := (.mapping (entries ++ [(k, n)]), a) :: rest, keys := .bad :: ks }
    | [] => l
  | _ => l

/-- Takes one event and its place; after an error, events are passed over. -/
def Loader.take (l : Loader) : Event × Mark → Loader
  | (e, m) =>
    if l.error.isSome then l
    else match e with
    | .documentEnd =>
      match l.stack with
      | [(n, _)] => { l with documents := l.documents ++ [n], stack := [] }
      | _ => { l with documents := l.documents ++ [.bad], stack := [] }
    | .sequenceStart a _ => { l with stack := (.sequence [], a) :: l.stack }
    | .mappingStart a _ => { l with stack := (.mapping [], a) :: l.stack, keys := .bad :: l.keys }
    | .sequenceEnd =>
      match l.stack with
      | (n, a) :: rest => Loader.insert { l with stack := rest } m n a
      | [] => l
    | .mappingEnd =>
      match l.stack with
      | (n, a) :: rest => Loader.insert { l with stack := rest, keys := l.keys.tail } m n a
      | [] => l
    | .scalar s style a tag => l.insert m (Node.ofScalar s style tag) a
    | .alias id => l.insert m ((l.anchored.lookup id).getD .bad) 0
    | _ => l

/-- The documents of a YAML text, or the first fault in it. -/
def Node.documentsOf (text : String) : Except ScanError (List Node) := do
  let events ← Event.ofText text
  let l := events.foldl Loader.take {}
  match l.error with
  | some e => throw e
  | none => pure l.documents

end CpuBench.Yaml
