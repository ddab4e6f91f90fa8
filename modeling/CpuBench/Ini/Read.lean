import CpuBench.Text.Blank

/-!
# Reading INI text

An INI text is a list of sections, each a header `[name]` followed by `key = value` or
`key: value` lines; the properties before the first header form the general section. The reader
keeps every section and every property in the order met, repeats included.

* Blanks and line breaks between items are skipped. A comment starts with `;` or `#` at the
  very start of a line and runs to its end; anywhere else it is an error.
* A key runs to the first `=` or `:`, line breaks included. A value runs to the end of the
  line, unless it starts with a quote: then it runs to the closing quote, over lines if need
  be, and the rest of the line follows it. Keys, values and section names are trimmed of
  Unicode white space.
* A backslash escapes the next character: `\0 \a \b \t \r \n` stand for their control
  characters, a backslash before a line break drops the break, and `\x` takes four hexadecimal
  digits as a code point.

Errors give the line and column after the character last read, both counted from 1.
-/

namespace CpuBench.Ini

/-- Why a text is not INI, with the place where reading stopped. -/
structure ParseError where
  line : Nat
  col : Nat
  msg : String
  deriving Repr

/-- The text of a reading error: line and column, then the reason. -/
def ParseError.message (e : ParseError) : String :=
  Nat.repr e.line ++ ":" ++ Nat.repr e.col ++ " " ++ e.msg

/-- A section: its name (none for the general section) and its properties in order. -/
structure Section where
  name : Option String
  properties : List (String × String)
  deriving Repr

/-- Where the reader stands: the character under it (none at the end), the characters after it,
and the line (from 0) and column of the character under it. -/
structure Reader where
  cur : Option Char
  rest : List Char
  line : Nat
  col : Nat

/-- A step of the reader. -/
abbrev ReadM := StateT Reader (Except ParseError)

namespace ReadM

/-- Moves to the next character. A line break starts a new line at column 0; any other
character moves one column on. -/
def bump : ReadM Unit :=
  modify fun r => match r.rest with
    | [] => { r with cur := none }
    | c :: rest =>
      if c == '\n' then ⟨some c, rest, r.line + 1, 0⟩ else ⟨some c, rest, r.line, r.col + 1⟩

/-- Stops with `msg` at the place after the character under the reader. -/
def fail (msg : String) : ReadM α := do
  let r ← get
  throw ⟨r.line + 1, r.col + 1, msg⟩

/-- A character as a quoted character literal shows it. -/
def charLiteral (c : Char) : String :=
  let inner := match c with
    | '\n' => "\\n"
    | '\r' => "\\r"
    | '\t' => "\\t"
    | '\\' => "\\\\"
    | '\'' => "\\'"
    | '\x00' => "\\0"
    | c => String.singleton c
  "'" ++ inner ++ "'"

/-- An optional character as its debugging text shows it. -/
def optionText : Option Char → String
  | some c => "Some(" ++ charLiteral c ++ ")"
  | none => "None"

/-- The character under the reader; at the end, the error that one of `stops` was expected. -/
def current (stops : List (Option Char)) : ReadM Char := do
  match (← get).cur with
  | some c => pure c
  | none => fail ("expecting \"[" ++ ", ".intercalate (stops.map optionText) ++
      "]\" but found EOF.")

/-- The character a code of four hexadecimal digits stands for. A leading `+` is allowed. -/
def codePoint (code : List Char) : Option Char :=
  let digits := match code with
    | '+' :: rest => rest
    | all => all
  let value (c : Char) : Nat :=
    if c.isDigit then c.toNat - 48
    else if 'a' ≤ c && c ≤ 'f' then c.toNat - 87
    else if 'A' ≤ c && c ≤ 'F' then c.toNat - 55
    else 16
  if digits.isEmpty || !digits.all (value · < 16) then none
  else
    let n := digits.foldl (fun acc c => acc * 16 + value c) 0
    if n < 0xD800 || (0xE000 ≤ n && n < 0x110000) then some (Char.ofNat n) else none

/-- Reads the four characters of a `\x` escape; a backslash among them must stand before a line
break. -/
def hexEscape (stops : List (Option Char)) : Nat → List Char → ReadM (List Char)
  | 0, code => pure code
  | n + 1, code => do
    bump
    let c ← current stops
    if c == '\\' then
      bump
      let next := (← get).cur
      if next != some '\n' then
        fail ("expecting \"\\\\n\" but found \"" ++ optionText next ++ "\".")
    hexEscape stops n (code ++ [c])

/-- Reads up to one of `stops`, which stays under the reader, decoding escapes. -/
def readUntil (stops : List (Option Char)) : Nat → String → ReadM String
  | 0, acc => pure acc
  | fuel + 1, acc => do
    if stops.contains (← get).cur then return acc
    let c ← current stops
    let acc ← if c == '\\' then do
        bump
        match ← current stops with
        | '0' => pure (acc.push '\x00')
        | 'a' => pure (acc.push '\x07')
        | 'b' => pure (acc.push '\x08')
        | 't' => pure (acc.push '\t')
        | 'r' => pure (acc.push '\r')
        | 'n' => pure (acc.push '\n')
        | '\n' => pure acc
        | 'x' =>
          match codePoint (← hexEscape stops 4 []) with
          | some d => pure (acc.push d)
          | none => fail "unknown character in \\xHH form"
        | e => pure (acc.push e)
      else pure (acc.push c)
    bump
    readUntil stops fuel acc

/-- The number of characters left, a bound for every loop over them. -/
def fuel : ReadM Nat := do
  pure ((← get).rest.length + 2)

/-- Skips white space and line breaks. -/
def skipSpace : Nat → ReadM Unit
  | 0 => pure ()
  | n + 1 => do
    match (← get).cur with
    | some c =>
      if Text.isBlank c then
        bump
        skipSpace n
    | none => pure ()

/-- Skips white space other than line breaks. -/
def skipSpaceInLine : Nat → ReadM Unit
  | 0 => pure ()
  | n + 1 => do
    match (← get).cur with
    | some c =>
      if Text.isBlank c && c != '\n' && c != '\r' then
        bump
        skipSpaceInLine n
    | none => pure ()

/-- Skips a comment and the line break after it. -/
def skipComment : Nat → ReadM Unit
  | 0 => pure ()
  | n + 1 => do
    match (← get).cur with
    | some c =>
      bump
      if c != '\n' then skipComment n
    | none => pure ()

/-- The ends of a value: a line break or the end of the text. -/
def lineEnds : List (Option Char) := [some '\n', some '\r', none]

/-- Reads a value after its `=` or `:`. -/
def value : ReadM String := do
  bump
  skipSpaceInLine (← fuel)
  match (← get).cur with
  | none => pure ""
  | some q =>
    if q == '"' || q == '\'' then
      bump
      let inside ← readUntil [some q] (← fuel) ""
      bump
      pure (inside ++ (← readUntil lineEnds (← fuel) ""))
    else readUntil lineEnds (← fuel) ""

/-- Trims Unicode white space from both ends. -/
def trim (s : String) : String :=
  String.ofList (Text.dropBlanks (Text.dropBlanks s.toList).reverse).reverse

/-- Adds a property to the current section: the last one, or the general section. -/
def addProperty (sections : List Section) (general : Bool) (p : String × String) :
    List Section :=
  match sections with
  | [] => [⟨none, [p]⟩]
  | first :: rest =>
    if general then { first with properties := first.properties ++ [p] } :: rest
    else match rest.getLast? with
      | some last => first :: (rest.dropLast ++ [{ last with properties := last.properties ++ [p] }])
      | none => [{ first with properties := first.properties ++ [p] }]

/-- Reads the items of the text, given the sections so far, the key waiting for its value and
whether the current section is the general one. -/
def items : Nat → List Section → String → Bool → ReadM (List Section)
  | 0, sections, _, _ => pure sections
  | n + 1, sections, key, general => do
    skipSpace (← fuel)
    let r ← get
    match r.cur with
    | none => pure sections
    | some c =>
      if c == ';' || c == '#' then
        if r.col > 1 then fail "doesn't support inline comment"
        skipComment (← fuel)
        items n sections key general
      else if c == '[' then
        bump
        let name ← readUntil [some ']'] (← fuel) ""
        if (← get).cur == some ']' then bump
        items n (sections ++ [⟨some (trim name), []⟩]) key false
      else if c == '=' || c == ':' then
        if key.isEmpty then fail "missing key"
        let v ← value
        items n (addProperty sections general (key, trim v)) "" general
      else
        let k ← readUntil [some '=', some ':'] (← fuel) ""
        items n sections (trim k) general

end ReadM

/-- The sections of an INI text, the general section first, or the first fault in it. -/
def Section.readAll (text : String) : Except ParseError (List Section) :=
  let start : Reader := match text.toList with
    | [] => ⟨none, [], 0, 0⟩
    | c :: rest => if c == '\n' then ⟨some c, rest, 1, 0⟩ else ⟨some c, rest, 0, 1⟩
  (ReadM.items (text.length + 2) [⟨none, []⟩] "" true).run' start

end CpuBench.Ini
