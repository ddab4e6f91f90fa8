import CpuBench.Decimal.Reading

/-!
# TOML documents: values, errors and the reading cursor

A TOML document is read into a `TomlValue`: strings, 64-bit integers, floats, booleans, dates and
times (kept as their normalised text), arrays and tables.

## Errors

A reading error names what was being read and what could have come next, each on its own line
(`invalid string` / `` expected `"`, `'` ``), or states the rule that was broken
(`` duplicate key `x` in document root ``), or both. It points at one byte of the text.
`TomlError.render` shows that place: the line and column (both from 1), the line itself, a caret
under the character, then the message.

Some failures are *soft*: the reader of an array or inline table that meets one in an item does
not report it, but goes back to where the item began (its comma, after the first) and expects
the rest of the list or the closing bracket there. Every other failure is reported as it is.
-/

namespace CpuBench

/-- A TOML value. Dates and times are kept as their normalised text. -/
inductive TomlValue where
  | str (s : String)
  | int (i : Int)
  | float (x : Float)
  | bool (b : Bool)
  | datetime (text : String)
  | array (items : List TomlValue)
  | table (entries : List (String × TomlValue))
  deriving Inhabited

/-- The name of a value's type, as errors about values name it. -/
def TomlValue.typeName : TomlValue → String
  | .str _ => "string"
  | .int _ => "integer"
  | .float _ => "float"
  | .bool _ => "boolean"
  | .datetime _ => "datetime"
  | .array _ => "array"
  | .table _ => "inline table"

/-- A reading error: its message, the byte offset it points at (none for an error about the
document as a whole), and whether it is soft. -/
structure TomlError where
  message : String
  offset : Option Nat
  soft : Bool

namespace Toml

/-- The message of an error: the label of what was being read, then what could come next, then
the broken rule, each on its own line when present. -/
def describe (label : Option String) (expected : List String) (cause : Option String) : String :=
  let parts := (match label with | some l => ["invalid " ++ l] | none => []) ++
    (if expected.isEmpty then [] else ["expected " ++ ", ".intercalate expected]) ++
    (match cause with | some c => [c] | none => [])
  "\n".intercalate parts

/-- How an expected character is named: a line break is `newline`, others stand in backticks. -/
def expectChar (c : Char) : String :=
  if c == '\n' then "newline" else "`" ++ String.singleton c ++ "`"

/-- The rule broken by a number, date or code point that does not fit. -/
def outOfRange : String := "value is out of range"

/-- The zero-based line and column of byte `index`. The column counts characters from the start
of the line up to and including the byte, less one; when that stretch does not end on a whole
character it counts bytes instead. An index past the end counts on from the last byte. -/
def position (bytes : ByteArray) (index : Nat) : Nat × Nat :=
  if bytes.size == 0 then (0, index)
  else
    let safe := min index (bytes.size - 1)
    let extra := index - safe
    let before := (bytes.extract 0 safe).toList
    let lineStart := before.length - (before.reverse.takeWhile (· != 10)).length
    let line := (before.take lineStart).count 10
    let column := match String.fromUTF8? (bytes.extract lineStart (safe + 1)) with
      | some s => s.length - 1
      | none => safe - lineStart
    (line, column + extra)

/-- `n` spaces. -/
def spaces (n : Nat) : String :=
  String.ofList (List.replicate n ' ')

/-- Where the reader stands: the characters left and the byte offset of the first of them. -/
structure Cursor where
  rest : List Char
  pos : Nat

/-- A reader of TOML text. -/
abbrev TomlM := StateT Cursor (Except TomlError)

/-- Fails here with a hard error. -/
def fail (message : String) : TomlM α := do
  throw ⟨message, some (← get).pos, false⟩

/-- Fails here with a soft error. -/
def failSoft (message : String) : TomlM α := do
  throw ⟨message, some (← get).pos, true⟩

/-- Fails at byte `offset` with a hard error. -/
def failAt (offset : Nat) (message : String) : TomlM α :=
  throw ⟨message, some offset, false⟩

/-- Runs `x`; on failure the position is left as it was and the error is returned. -/
def attempt (x : TomlM α) : TomlM (Except TomlError α) := fun c =>
  match x c with
  | .ok (a, c') => .ok (.ok a, c')
  | .error e => .ok (.error e, c)

/-- Makes any failure of `x` hard. -/
def hard (x : TomlM α) : TomlM α := fun c =>
  match x c with
  | .ok r => .ok r
  | .error e => .error { e with soft := false }

/-- The next character, not read. -/
def peek? : TomlM (Option Char) := do
  pure (← get).rest.head?

/-- The characters ahead. -/
def ahead : TomlM (List Char) := do
  pure (← get).rest

/-- The byte offset of the reader. -/
def offset : TomlM Nat := do
  pure (← get).pos

/-- Reads past one character. -/
def advance : TomlM Unit :=
  modify fun c => match c.rest with
    | ch :: r => ⟨r, c.pos + ch.utf8Size⟩
    | [] => c

/-- Reads past `n` characters. -/
def advanceBy (n : Nat) : TomlM Unit :=
  modify fun c =>
    let taken := c.rest.take n
    ⟨c.rest.drop n, c.pos + (taken.map Char.utf8Size).foldl (· + ·) 0⟩

/-- Whether the text ahead starts with `s`. -/
def lookingAt (s : String) : TomlM Bool := do
  pure (s.toList.isPrefixOf (← get).rest)

/-- Reads `s` if it is ahead. -/
def accept (s : String) : TomlM Bool := do
  if ← lookingAt s then
    advanceBy s.length
    pure true
  else pure false

/-- Reads the longest run of characters satisfying `p`. -/
def takeWhile (p : Char → Bool) : TomlM String := do
  let c ← get
  let taken := c.rest.takeWhile p
  set (⟨c.rest.drop taken.length, c.pos + (taken.map Char.utf8Size).foldl (· + ·) 0⟩ : Cursor)
  pure (String.ofList taken)

/-- Whether a character is a blank inside a line: a space or a tab. -/
def isBlank (c : Char) : Bool :=
  c == ' ' || c == '\t'

/-- Skips blanks inside a line. -/
def blanks : TomlM Unit := do
  let _ ← takeWhile isBlank

/-- Whether a character may stand in a comment: a tab, a printable ASCII character, or any
character beyond ASCII. -/
def isCommentChar (c : Char) : Bool :=
  c == '\t' || (' ' ≤ c && c.toNat ≤ 0x7E) || c.toNat ≥ 0x80

/-- Reads a comment if one starts here. -/
def comment? : TomlM Bool := do
  if (← peek?) == some '#' then
    advance
    let _ ← takeWhile isCommentChar
    pure true
  else pure false

/-- Reads a line break, `\n` or `\r\n`, if one is here. -/
def newline? : TomlM Bool := do
  match ← ahead with
  | '\n' :: _ => do advance; pure true
  | '\r' :: '\n' :: _ => do advanceBy 2; pure true
  | _ => pure false

/-- Reads the end of a line after a key/value pair or a table header: blanks, an optional
comment, then a line break or the end of the text. `label` names what the line holds. -/
def lineEnd (label : Option String) : TomlM Unit := do
  blanks
  let _ ← comment?
  if ← newline? then pure ()
  else if (← ahead).isEmpty then pure ()
  else fail (describe label [expectChar '\n', expectChar '#'] none)

/-- Reads a line break: `\n`, or `\r` and `\n`. A carriage return alone is read and then
fails softly. -/
def lineBreak : TomlM Unit := do
  match ← peek? with
  | some '\n' => advance
  | some '\r' => do
    advance
    if (← peek?) == some '\n' then advance else failSoft ""
  | _ => failSoft ""

/-- Skips blanks, comments and line breaks between the items of an array, at most `fuel`
steps. A comment must end in a line break; a failed line break fails softly. -/
def gaps : Nat → TomlM Unit
  | 0 => pure ()
  | fuel + 1 => do
    blanks
    match ← peek? with
    | some '#' =>
      let _ ← comment?
      lineBreak
      gaps fuel
    | some '\n' | some '\r' => do
      lineBreak
      gaps fuel
    | _ => pure ()

end Toml

/-- The UTF-8 length of the character that starts at byte `offset` of `text`, or 0 at the end. -/
def Toml.charLengthAt (text : String) (offset : Nat) : Nat :=
  go text.toList 0
where
  go : List Char → Nat → Nat
    | [], _ => 0
    | c :: rest, here => if offset ≤ here then c.utf8Size else go rest (here + c.utf8Size)

/-- Shows an error in the text it was found in: the line, and under it a caret run as wide as the
character at the error (one caret at the end of the text), not reaching past the line's end by
more than the first caret. -/
def TomlError.render (e : TomlError) (text : String) : String :=
  match e.offset with
  | none => e.message ++ "\n"
  | some offset =>
    let (line, column) := Toml.position text.toUTF8 offset
    let lineNum := Nat.repr (line + 1)
    let gutter := lineNum.length
    let content := (text.splitOn "\n").getD line ""
    let highlight := min (Toml.charLengthAt text offset) (content.utf8ByteSize - column)
    "TOML parse error at line " ++ lineNum ++ ", column " ++ Nat.repr (column + 1) ++ "\n" ++
      Toml.spaces (gutter + 1) ++ "|\n" ++ lineNum ++ " | " ++ content ++ "\n" ++
      Toml.spaces (gutter + 1) ++ "|" ++ Toml.spaces (column + 1) ++ "^" ++
      String.ofList (List.replicate (highlight - 1) '^') ++ "\n" ++ e.message ++ "\n"

end CpuBench
