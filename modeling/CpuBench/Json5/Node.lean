/-!
# JSON5 values as written

A JSON5 text holds one value: `null`, a boolean, a string in double or single quotes, a number
(with an optional sign: a hexadecimal integer, a decimal with optional point and exponent,
`Infinity` or `NaN`), an object, or an array. Object keys are names or strings; objects and
arrays may end with a comma. Blanks, line breaks and comments may stand between tokens.

`Node` is the value as written: numbers keep their text, and strings and names keep their
pieces (characters, escapes and code escapes), which are decoded only later.

A reading error names the place where the furthest named part of the grammar failed, and the
parts that failed there. `Failure.render` lays it out as a small report: the line and column, the
line itself with a marker under the place, and what was expected.
-/

namespace CpuBench.Json5

/-- The named parts of the grammar, which an error lists as expected. -/
inductive Rule where
  | eoi
  | array
  | boolean
  | charEscapeSequence
  | charLiteral
  | hexEscapeSequence
  | identifier
  | nulEscapeSequence
  | null
  | number
  | object
  | string
  | unicodeEscapeSequence
  deriving DecidableEq, Repr

/-- The place of a part in the order errors list them. -/
def Rule.rank : Rule → Nat
  | .eoi => 0
  | .array => 1
  | .boolean => 2
  | .charEscapeSequence => 3
  | .charLiteral => 4
  | .hexEscapeSequence => 5
  | .identifier => 6
  | .nulEscapeSequence => 7
  | .null => 8
  | .number => 9
  | .object => 10
  | .string => 11
  | .unicodeEscapeSequence => 12

/-- The name an error gives a part. -/
def Rule.name : Rule → String
  | .eoi => "EOI"
  | .array => "array"
  | .boolean => "boolean"
  | .charEscapeSequence => "char_escape_sequence"
  | .charLiteral => "char_literal"
  | .hexEscapeSequence => "hex_escape_sequence"
  | .identifier => "identifier"
  | .nulEscapeSequence => "nul_escape_sequence"
  | .null => "null"
  | .number => "number"
  | .object => "object"
  | .string => "string"
  | .unicodeEscapeSequence => "unicode_escape_sequence"

/-- A piece of a string or a name as written. -/
inductive Piece where
  /-- A character standing for itself. -/
  | char (c : Char)
  /-- A backslash and one character. -/
  | escape (c : Char)
  /-- The escape `\0`. -/
  | nul
  /-- The two hexadecimal digits of an escape `\xHH`. -/
  | hex (digits : String)
  /-- The four hexadecimal digits of an escape `\uHHHH`. -/
  | unicode (digits : String)
  deriving Repr

/-- The text of a piece as written, its backslash apart. -/
def Piece.text : Piece → String
  | .char c => String.singleton c
  | .escape c => String.singleton c
  | .nul => "0"
  | .hex digits => digits
  | .unicode digits => digits

/-- A JSON5 value as written. -/
inductive Node where
  | null
  | bool (b : Bool)
  | number (text : String)
  | string (pieces : List Piece)
  | array (items : List Node)
  | object (entries : List (List Piece × Node))
  deriving Inhabited, Repr

/-- A reading error: the position (in characters) of the furthest failure, and the parts that
failed there, in list order without repeats. -/
structure Failure where
  pos : Nat
  expected : List Rule
  deriving Repr

/-- Puts a part into a list in list order, once. -/
def insertRule (r : Rule) : List Rule → List Rule
  | [] => [r]
  | s :: rest =>
    if r == s then s :: rest
    else if r.rank < s.rank then r :: s :: rest
    else s :: insertRule r rest

/-- Parts in list order, each once. -/
def sortRules (rs : List Rule) : List Rule :=
  rs.foldl (fun acc r => insertRule r acc) []

/-- Names in a sentence: `a`, `a or b`, `a, b, or c`. -/
def enumerate : List String → String
  | [] => ""
  | [a] => a
  | [a, b] => a ++ " or " ++ b
  | names => ", ".intercalate names.dropLast ++ ", or " ++ names.getLastD ""

/-- What an error says was expected. -/
def Failure.message (f : Failure) : String :=
  if f.expected.isEmpty then "unknown parsing error"
  else "expected " ++ enumerate (f.expected.map Rule.name)

/-- The line and column of a position, both from 1, columns in characters. A carriage return
followed by a line feed counts as one line break; a lone carriage return counts as a column. -/
def lineCol (cs : List Char) (pos : Nat) : Nat × Nat :=
  go (cs.take pos) 1 1
where
  go : List Char → Nat → Nat → Nat × Nat
    | [], line, col => (line, col)
    | '\r' :: '\n' :: rest, line, _ => go rest (line + 1) 1
    | '\n' :: rest, line, _ => go rest (line + 1) 1
    | _ :: rest, line, col => go rest line (col + 1)

/-- The line holding a position, with its line feed when it has one. -/
def lineAround (cs : List Char) (pos : Nat) : List Char :=
  let before := cs.take pos
  let start := match (before.reverse.findIdx? (· == '\n')) with
    | some i => pos - i
    | none => 0
  let after := cs.drop pos
  let stop := match after.findIdx? (· == '\n') with
    | some i => pos + i + 1
    | none => cs.length
  (cs.take stop).drop start

/-- The line as the report shows it: when the position is at a line break, the breaks are drawn
as visible symbols; otherwise they are left out. -/
def shownLine (cs : List Char) (pos : Nat) : List Char :=
  let line := lineAround cs pos
  match cs[pos]? with
  | some '\n' | some '\r' =>
    line.map fun c => if c == '\r' then '\u240D' else if c == '\n' then '\u240A' else c
  | _ => line.filter fun c => c != '\r' && c != '\n'

/-- The report of an error in `text`:

```text
 --> 1:5
  |
1 | {a: }
  |     ^---
  |
  = expected array, boolean, null, number, object, or string
```
-/
def Failure.render (f : Failure) (text : String) : String :=
  let cs := text.toList
  let (line, col) := lineCol cs f.pos
  let shown := shownLine cs f.pos
  let lineText := Nat.repr line
  let gap := String.ofList (List.replicate lineText.length ' ')
  let marker := String.ofList ((shown.take (col - 1)).map fun c => if c == '\t' then '\t' else ' ')
    ++ "^---"
  gap ++ "--> " ++ lineText ++ ":" ++ Nat.repr col ++ "\n" ++
    gap ++ " |\n" ++
    lineText ++ " | " ++ String.ofList shown ++ "\n" ++
    gap ++ " | " ++ marker ++ "\n" ++
    gap ++ " |\n" ++
    gap ++ " = " ++ f.message

end CpuBench.Json5
