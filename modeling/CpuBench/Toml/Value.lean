import CpuBench.Toml.Scalar

/-!
# TOML values, arrays and inline tables

`value` reads whatever value starts ahead, dispatching on its first character. A value that
cannot start with that character fails softly, so that an array meeting it reports its missing
closing bracket instead; `true`, `false`, strings, arrays and inline tables, once begun, fail
hard.

An array is a bracketed list of values separated by commas, with blanks, comments and line breaks
anywhere between them and an optional comma after the last. An inline table is a braced list of
`key = value` pairs on one line, separated by commas, without a trailing comma. Its dotted keys
build nested tables; a key given twice, or a dotted key that runs through a value that is not a
table, is refused once all its pairs are read, at the place just inside the brace.

Arrays and inline tables nest at most `recursionLimit` deep.
-/

namespace CpuBench.Toml

/-- The error for a value that cannot start with the character ahead. -/
def stringExpected : String :=
  describe (some "string") [expectChar '"', expectChar '\''] none

/-- How deep arrays and inline tables may nest. -/
def recursionLimit : Nat := 80

/-- A rule broken by the keys of a table. -/
inductive Clash where
  /-- A key given twice; `table` names the table it was given in, when the error says so. -/
  | duplicate (key : String) (table : Option (List String))
  /-- A dotted key whose leading parts `path` name a value that is not a table. -/
  | extend (path : List String) (typeName : String)

/-- The text of a broken rule. -/
def Clash.message : Clash → String
  | .duplicate key none => "duplicate key `" ++ key ++ "`"
  | .duplicate key (some []) => "duplicate key `" ++ key ++ "` in document root"
  | .duplicate key (some table) =>
    "duplicate key `" ++ key ++ "` in table `" ++ ".".intercalate table ++ "`"
  | .extend path typeName =>
    "dotted key `" ++ ".".intercalate path ++ "` attempted to extend non-table type (" ++
      typeName ++ ")"

/-- The value at `path` in the entries of an inline table, if there is one. -/
def lookupPath (entries : List (String × TomlValue)) : List String → Option TomlValue
  | [] => none
  | [k] => (entries.find? (·.1 == k)).map (·.2)
  | k :: rest =>
    match entries.find? (·.1 == k) with
    | some (_, .table inner) => lookupPath inner rest
    | _ => none

/-- Sets `leaf` to `v` in the table at `path`, creating the tables on the way that are missing. -/
def insertAt (entries : List (String × TomlValue)) (leaf : String) (v : TomlValue) :
    List String → List (String × TomlValue)
  | [] => entries ++ [(leaf, v)]
  | k :: rest =>
    match entries.find? (·.1 == k) with
    | some (_, .table inner) =>
      entries.map fun e => if e.1 == k then (k, .table (insertAt inner leaf v rest)) else e
    | _ => entries ++ [(k, .table (insertAt [] leaf v rest))]

/-- The table built by the pairs of an inline table, read in order. `dotted` lists the tables
made by dotted keys so far. A dotted key may run through tables made by dotted keys or written
inline, but may add a key only to a table made by dotted keys. -/
def buildInline (entries : List (String × TomlValue)) (dotted : List (List String)) :
    List (List String × String × TomlValue) → Except Clash (List (String × TomlValue))
  | [] => .ok entries
  | (path, leaf, v) :: rest => do
    let prefixes := (List.range path.length).map fun i => path.take (i + 1)
    let dotted ← prefixes.foldlM (fun acc p =>
      match lookupPath entries p with
      | none => .ok (if acc.contains p then acc else acc ++ [p])
      | some (.table _) => .ok acc
      | some other => .error (.extend p other.typeName)) dotted
    if !path.isEmpty && !dotted.contains path then throw (.duplicate leaf none)
    if (lookupPath entries (path ++ [leaf])).isSome then throw (.duplicate leaf none)
    buildInline (insertAt entries leaf v path) dotted rest

mutual

/-- Reads the value ahead. `depth` counts the arrays and inline tables around it; `fuel` bounds
the reading steps. -/
def value : Nat → Nat → TomlM TomlValue
  | _, 0 => fail ""
  | depth, fuel + 1 => do
    match ← peek? with
    | some '"' | some '\'' => pure (.str (← string))
    | some '[' => do
      if depth + 1 ≥ recursionLimit then fail "recursion limit exceeded"
      advance
      pure (.array (← arrayItems (depth + 1) fuel))
    | some '{' => do
      if depth + 1 ≥ recursionLimit then fail "recursion limit exceeded"
      advance
      pure (.table (← inlineTable (depth + 1) fuel))
    | some 't' => if ← accept "true" then pure (.bool true) else fail stringExpected
    | some 'f' => if ← accept "false" then pure (.bool false) else fail stringExpected
    | some 'i' => if ← accept "inf" then pure (.float (1 / 0)) else failSoft stringExpected
    | some 'n' => if ← accept "nan" then pure (.float (0 / 0)) else failSoft stringExpected
    | some '_' => failSoft (describe (some "integer") ["leading digit"] none)
    | some '.' => failSoft (describe (some "floating-point number") ["leading digit"] none)
    | some c => if isDigit c || c == '+' || c == '-' then numeric else failSoft stringExpected
    | none => failSoft ""

/-- Reads one item of an array with the blanks, comments and line breaks around it. -/
def arrayItem (depth fuel : Nat) : TomlM TomlValue := do
  gaps (← stepsLeft)
  let v ← value depth fuel
  gaps (← stepsLeft)
  pure v

/-- Reads the items after the first, each after a comma, onto `acc` in reverse. Where an item
fails softly the reader goes back to its comma and stops. -/
def moreItems : Nat → Nat → List TomlValue → TomlM (List TomlValue)
  | _, 0, acc => pure acc
  | depth, fuel + 1, acc => do
    let save ← get
    if (← peek?) != some ',' then return acc
    advance
    match ← attempt (arrayItem depth fuel) with
    | .ok v => moreItems depth fuel (v :: acc)
    | .error e => if e.soft then do set save; pure acc else throw e

/-- Reads the items of an array after its opening bracket, through its closing bracket. When the
first item fails softly the array has no items; after some items one comma may close the list.
Then come the last gaps, whose failure is hard, and the closing bracket. -/
def arrayItems (depth fuel : Nat) : TomlM (List TomlValue) := do
  let items ← match ← attempt (arrayItem depth fuel) with
    | .ok v => moreItems depth fuel [v]
    | .error e => if e.soft then pure [] else throw e
  if !items.isEmpty && (← peek?) == some ',' then advance
  hard (gaps (← stepsLeft))
  if (← peek?) == some ']' then
    advance
    pure items.reverse
  else fail (describe (some "array") [expectChar ']'] none)

/-- Reads the pairs of an inline table: each a key, `=`, and a value. A comma comes before every
pair but the first; where no key follows, the reader stops before that comma. -/
def inlinePairs : Nat → Nat → Bool → List (List String × String × TomlValue) →
    TomlM (List (List String × String × TomlValue))
  | _, 0, _, acc => pure acc.reverse
  | depth, fuel + 1, first, acc => do
    let save ← get
    if !first then
      if (← peek?) == some ',' then advance else return acc.reverse
    match ← attempt key with
    | .error e =>
      if e.soft then do
        set save
        pure acc.reverse
      else throw e
    | .ok path =>
      if (← peek?) != some '=' then fail (describe none [expectChar '.', expectChar '='] none)
      advance
      blanks
      let v ← hard (value depth fuel)
      blanks
      inlinePairs depth fuel false ((path.dropLast, path.getLastD "", v) :: acc)

/-- Reads an inline table after its opening brace, through its closing brace. -/
def inlineTable : Nat → Nat → TomlM (List (String × TomlValue))
  | _, 0 => pure []
  | depth, fuel + 1 => do
    let start ← offset
    let pairs ← inlinePairs depth fuel true []
    blanks
    let table ← match buildInline [] [] pairs with
      | .ok t => pure t
      | .error clash => failAt start clash.message
    if (← peek?) == some '}' then advance
    else fail (describe (some "inline table") [expectChar '\x7d'] none)
    pure table

end

end CpuBench.Toml
