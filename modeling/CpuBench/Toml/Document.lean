import CpuBench.Toml.Value

/-!
# TOML documents

A document is a sequence of lines: blank lines, comments, `key = value` pairs, and table headers
`[a.b]` or `[[a.b]]`. Pairs belong to the table of the last header, or to the root table before
any header.

## Tables

While a document is read, every table remembers whether it was only *implied* (by a longer
header or a dotted key) and whether a *dotted* key made it. These decide what may be added later:

* a pair's dotted key may run through tables made by dotted keys, but not through a table that a
  header defined; it may not end in a table that was not made by dotted keys;
* a key may be given only once in a table;
* a `[header]` may define a table only once, though it may define one that a longer header
  implied; a `[[header]]` appends a table to an array of tables, which it creates if need be;
* a dotted key or header may run through an array of tables, into its last table, but not through
  any other value.

A header's table is set into place when the next header starts, and the last one at the end of
the document. A broken rule is reported at the start of the line that broke it.
-/

namespace CpuBench.Toml

/-- An entry of a table while a document is read. -/
inductive Item where
  /-- A value given by a pair. -/
  | value (v : TomlValue)
  /-- A table, with whether it was only implied and whether a dotted key made it. -/
  | table (entries : List (String × Item)) (implicit dotted : Bool)
  /-- An array of tables, each given by its entries. -/
  | tables (items : List (List (String × Item)))

mutual

/-- The value an item stands for. -/
def Item.toValue : Item → TomlValue
  | .value v => v
  | .table entries _ _ => .table (entriesValue entries)
  | .tables items => .array (tablesValue items)

/-- The values of a table's entries. -/
def entriesValue : List (String × Item) → List (String × TomlValue)
  | [] => []
  | (k, item) :: rest => (k, item.toValue) :: entriesValue rest

/-- The values of the tables of an array of tables. -/
def tablesValue : List (List (String × Item)) → List TomlValue
  | [] => []
  | t :: rest => .table (entriesValue t) :: tablesValue rest

end

/-- The item of key `k`, if there is one. -/
def lookupItem (k : String) (entries : List (String × Item)) : Option Item :=
  (entries.find? (·.1 == k)).map (·.2)

/-- Replaces the item of key `k`. -/
def replaceItem (k : String) (item : Item) (entries : List (String × Item)) :
    List (String × Item) :=
  entries.map fun e => if e.1 == k then (k, item) else e

/-- How a key is written in an error about a header: bare when it can be, else quoted. -/
def keyRepr (k : String) : String :=
  if !k.isEmpty && k.all isBareKeyChar then k
  else
    let escaped := k.toList.flatMap fun c =>
      if c == '"' then ['\\', '"']
      else if c == '\\' then ['\\', '\\']
      else if c == '\x08' then ['\\', 'b']
      else if c == '\t' then ['\\', 't']
      else if c == '\n' then ['\\', 'n']
      else if c == '\x0c' then ['\\', 'f']
      else if c == '\r' then ['\\', 'r']
      else if c.toNat < 0x20 || c.toNat == 0x7F then
        let hex := (Nat.toDigits 16 c.toNat).map Char.toUpper
        ['\\', 'u'] ++ List.replicate (4 - hex.length) '0' ++ hex
      else [c]
    "\"" ++ String.ofList escaped ++ "\""

/-- The clash of a header `path` whose last part is already taken. -/
def headerClash (path : List String) : Clash :=
  .duplicate (keyRepr (path.getLastD "")) (some path.dropLast)

/-- Walks `path` from `entries`, creating implicit tables (made by a dotted key when `dotted`),
and applies `f` to the entries of the table at its end and whether a dotted key made that table.
`whole` is the full path and `done` the number of its parts walked, for errors. -/
def atPath (dotted : Bool) (whole : List String)
    (f : Bool → List (String × Item) → Except Clash (List (String × Item) × α)) :
    Nat → Bool → List (String × Item) → List String → Except Clash (List (String × Item) × α)
  | _, isDotted, entries, [] => f isDotted entries
  | done, _, entries, k :: rest =>
    match lookupItem k entries with
    | none => do
      let (inner, a) ← atPath dotted whole f (done + 1) dotted [] rest
      pure (entries ++ [(k, .table inner true dotted)], a)
    | some (.value v) => .error (.extend (whole.take (done + 1)) v.typeName)
    | some (.tables items) => do
      let (inner, a) ← atPath dotted whole f (done + 1) false (items.getLastD []) rest
      pure (replaceItem k (.tables (items.dropLast ++ [inner])) entries, a)
    | some (.table inner implicit d) =>
      if dotted && !implicit then .error (.duplicate k none)
      else do
        let (inner', a) ← atPath dotted whole f (done + 1) d inner rest
        pure (replaceItem k (.table inner' implicit d) entries, a)

/-- The state of a document being read: the root table, the table pairs go into, its header
path, and whether it belongs to an array of tables. -/
structure Sheet where
  root : List (String × Item)
  current : List (String × Item)
  path : List String
  inArray : Bool

/-- The state before the first line. -/
def Sheet.empty : Sheet := ⟨[], [], [], false⟩

/-- Adds the pair `prefix.leaf = v` to the current table. -/
def Sheet.addPair (s : Sheet) (pre : List String) (leaf : String) (v : TomlValue) :
    Except Clash Sheet := do
  let (current, _) ← atPath true pre (fun isDotted entries =>
      if isDotted == pre.isEmpty then .error (.duplicate leaf none)
      else if (lookupItem leaf entries).isSome then .error (.duplicate leaf (some s.path))
      else .ok (entries ++ [(leaf, .value v)], ())) 0 false s.current pre
  pure { s with current := current }

/-- Sets the current table into place under its header path. -/
def Sheet.settle (s : Sheet) : Except Clash Sheet := do
  if s.path.isEmpty then return { s with root := s.current, current := [] }
  let leaf := s.path.getLastD ""
  let (root, _) ← atPath false s.path (fun _ parent =>
      match lookupItem leaf parent with
      | none =>
        if s.inArray then .ok (parent ++ [(leaf, .tables [s.current])], ())
        else .ok (parent ++ [(leaf, .table s.current false false)], ())
      | some (.tables items) =>
        if s.inArray then .ok (replaceItem leaf (.tables (items ++ [s.current])) parent, ())
        else .error (headerClash s.path)
      | some (.table old true _) =>
        if s.inArray then .error (headerClash s.path)
        else .ok (replaceItem leaf (.table (s.current ++ old) false false) parent, ())
      | some _ => .error (headerClash s.path)) 0 false s.root s.path.dropLast
  pure { s with root := root, current := [], path := [] }

/-- Starts the table of the header `[path]`, taking over the table a longer header implied. -/
def Sheet.startTable (s : Sheet) (path : List String) : Except Clash Sheet := do
  let s ← s.settle
  let leaf := path.getLastD ""
  let (root, taken) ← atPath false path (fun _ parent =>
      match lookupItem leaf parent with
      | none => .ok (parent, [])
      | some (.table old true false) => .ok (parent.filter (·.1 != leaf), old)
      | some _ => .error (headerClash path)) 0 false s.root path.dropLast
  pure ⟨root, taken, path, false⟩

/-- Starts a table of the array of tables `[[path]]`, creating the array if need be. -/
def Sheet.startArrayTable (s : Sheet) (path : List String) : Except Clash Sheet := do
  let s ← s.settle
  let leaf := path.getLastD ""
  let (root, _) ← atPath false path (fun _ parent =>
      match lookupItem leaf parent with
      | none => .ok (parent ++ [(leaf, .tables [])], ())
      | some (.tables _) => .ok (parent, ())
      | some _ => .error (headerClash path)) 0 false s.root path.dropLast
  pure ⟨root, [], path, true⟩

/-- Reads a `key = value` line and adds the pair to the current table. -/
def pairLine (s : Sheet) (fuel : Nat) : TomlM Sheet := do
  let start ← offset
  let path ← hard key
  if (← peek?) != some '=' then fail (describe none [expectChar '.', expectChar '='] none)
  advance
  blanks
  let v ← hard (value 0 fuel)
  lineEnd none
  match s.addPair path.dropLast (path.getLastD "") v with
  | .ok s => pure s
  | .error clash => failAt start clash.message

/-- Reads a table header line and starts its table. -/
def headerLine (s : Sheet) : TomlM Sheet := do
  let label := some "table header"
  let start ← offset
  let isArray ← accept "[["
  if !isArray then advance
  let path ← hard key
  if isArray then
    if !(← accept "]]") then fail (describe label [expectChar '.', "`]]`"] none)
  else if (← peek?) == some ']' then advance
  else fail (describe label [expectChar '.', expectChar ']'] none)
  lineEnd label
  let started := if isArray then s.startArrayTable path else s.startTable path
  match started with
  | .ok s => pure s
  | .error clash => failAt start (describe label [] (some clash.message))

/-- Reads the lines of a document, at most `fuel` of them. -/
def lines (fuel : Nat) : Nat → Sheet → TomlM Sheet
  | 0, s => pure s
  | n + 1, s => do
    let s ← match ← ahead with
      | [] => return s
      | '#' :: _ => do
        let _ ← comment?
        if !(← newline?) && !(← ahead).isEmpty then fail ""
        pure s
      | '[' :: _ => headerLine s
      | '\n' :: _ => do
        advance
        pure s
      | '\r' :: '\n' :: _ => do
        advanceBy 2
        pure s
      | '\r' :: _ => fail ""
      | _ => pairLine s fuel
    blanks
    lines fuel n s

/-- Reads a whole document into its root table. -/
def document : TomlM (List (String × TomlValue)) := do
  if (← peek?) == some '\uFEFF' then advance
  blanks
  let steps ← stepsLeft
  let s ← lines (3 * steps) steps Sheet.empty
  match s.settle with
  | .ok s => pure (entriesValue s.root)
  | .error clash => throw ⟨clash.message, none, false⟩

end CpuBench.Toml

namespace CpuBench

/-- Reads a TOML document into its root table, or the error that stops it. -/
def TomlValue.parse (text : String) : Except TomlError (List (String × TomlValue)) :=
  (Toml.document.run ⟨text.toList, 0⟩).map (·.1)

end CpuBench
