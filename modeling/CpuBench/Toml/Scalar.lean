import CpuBench.Toml.Basic

/-!
# TOML scalars: strings, keys, numbers, dates and times

Each reader starts with the first character of its item ahead and reads it whole, or fails with
the error the item's grammar gives at the place it gives it:

* strings — basic (`"…"` with escapes), literal (`'…'`), and their multi-line forms, where up to
  two quotes may end the body and a backslash before a line break swallows the blanks after it;
* keys — bare (`A-Z a-z 0-9 - _`) or quoted parts joined by dots;
* numbers — decimal integers without leading zeros, `0x`/`0o`/`0b` integers, floats with a
  fraction or an exponent, and `inf`/`nan`; underscores only between digits; integers must fit
  in 64 bits and floats must not overflow upwards;
* dates and times — `YYYY-MM-DD`, `HH:MM:SS[.frac]`, or both joined by `T`, `t` or a space, with
  an optional `Z` or `±HH:MM` offset; every field is range-checked, the day against its month.
-/

namespace CpuBench.Toml

/-- Whether a character may stand unescaped in a basic string: blanks, printable ASCII other than
the quote and the backslash, and anything beyond ASCII. -/
def isBasicChar (c : Char) : Bool :=
  c == ' ' || c == '\t' || c == '!' || ('#' ≤ c && c ≤ '[') || (']' ≤ c && c ≤ '~') ||
    c.toNat ≥ 0x80

/-- Whether a character may stand in a literal string: a tab, printable ASCII other than the
apostrophe, and anything beyond ASCII. -/
def isLiteralChar (c : Char) : Bool :=
  c == '\t' || (' ' ≤ c && c ≤ '&') || ('(' ≤ c && c ≤ '~') || c.toNat ≥ 0x80

/-- The value of a hexadecimal digit. -/
def hexValue (c : Char) : Option Nat :=
  if '0' ≤ c && c ≤ '9' then some (c.toNat - 48)
  else if 'a' ≤ c && c ≤ 'f' then some (c.toNat - 87)
  else if 'A' ≤ c && c ≤ 'F' then some (c.toNat - 55)
  else none

/-- Whether a character is an ASCII decimal digit. -/
def isDigit (c : Char) : Bool :=
  '0' ≤ c && c ≤ '9'

/-- The number written by decimal digits. -/
def digitsValue (ds : List Char) : Nat :=
  ds.foldl (fun acc c => acc * 10 + (c.toNat - 48)) 0

/-- The characters that may follow a backslash, as an error lists them. -/
def escapeNames : List String :=
  ["b", "f", "n", "r", "t", "u", "U", "\\", "\""].map fun s => "`" ++ s ++ "`"

/-- Reads the `n` hex digits of a code point after `\u` or `\U`. -/
def codePoint (n : Nat) (label : String) : TomlM Char := do
  let digits := ((← ahead).take n).takeWhile fun c => (hexValue c).isSome
  if digits.length < n then fail (describe (some label) [] none)
  let code := digits.foldl (fun acc c => acc * 16 + (hexValue c).getD 0) 0
  if code > 0x10FFFF || (0xD800 ≤ code && code ≤ 0xDFFF) then
    fail (describe (some label) [] (some outOfRange))
  advanceBy n
  pure (Char.ofNat code)

/-- Reads an escape sequence whose backslash has been read; a character is ahead. -/
def escape : TomlM Char := do
  let c ← peek?
  advance
  match c with
  | some 'b' => pure '\x08'
  | some 'f' => pure '\x0c'
  | some 'n' => pure '\n'
  | some 'r' => pure '\r'
  | some 't' => pure '\t'
  | some '\\' => pure '\\'
  | some '"' => pure '"'
  | some 'u' => codePoint 4 "unicode 4-digit hex code"
  | some 'U' => codePoint 8 "unicode 8-digit hex code"
  | _ => fail (describe (some "escape sequence") escapeNames none)

/-- The characters of a basic string up to where its closing quote should stand, in reverse. -/
def basicChars : Nat → List Char → TomlM (List Char)
  | 0, acc => pure acc
  | fuel + 1, acc => do
    match ← ahead with
    | '\\' :: _ :: _ => do
      advance
      let c ← escape
      basicChars fuel (c :: acc)
    | c :: _ =>
      if isBasicChar c then do
        advance
        basicChars fuel (c :: acc)
      else pure acc
    | [] => pure acc

/-- The number of reading steps the rest of the text can need: one per character, and one more. -/
def stepsLeft : TomlM Nat := do
  pure ((← ahead).length + 1)

/-- Reads a basic string, its opening quote ahead. -/
def basicString : TomlM String := do
  advance
  let body ← basicChars (← stepsLeft) []
  if (← peek?) == some '"' then advance else fail (describe (some "basic string") [] none)
  pure (String.ofList body.reverse)

/-- Reads a literal string, its opening apostrophe ahead. -/
def literalString : TomlM String := do
  advance
  let s ← takeWhile isLiteralChar
  if (← peek?) == some '\'' then advance else fail (describe (some "literal string") [] none)
  pure s

/-- Skips blanks and line breaks after a line-ending backslash in a multi-line string. -/
def blankLines : Nat → TomlM Unit
  | 0 => pure ()
  | fuel + 1 => do
    match ← ahead with
    | c :: _ =>
      if isBlank c || c == '\n' then do advance; blankLines fuel
      else if ← newline? then blankLines fuel
      else pure ()
    | [] => pure ()

/-- The characters of a multi-line basic string up to its closing quotes, in reverse. -/
def mlBasicChars : Nat → List Char → TomlM (List Char)
  | 0, acc => pure acc
  | fuel + 1, acc => do
    match ← ahead with
    | '"' :: '"' :: '"' :: '"' :: '"' :: _ => do advanceBy 2; pure ('"' :: '"' :: acc)
    | '"' :: '"' :: '"' :: '"' :: _ => do advance; pure ('"' :: acc)
    | '"' :: '"' :: '"' :: _ => pure acc
    | ['"'] | ['"', '"'] => pure acc
    | '"' :: _ => do advance; mlBasicChars fuel ('"' :: acc)
    | '\\' :: r =>
      match r.dropWhile isBlank with
      | '\n' :: _ | '\r' :: '\n' :: _ => do
        advance
        blankLines (← stepsLeft)
        mlBasicChars fuel acc
      | _ :: _ => do
        advance
        let c ← escape
        mlBasicChars fuel (c :: acc)
      | [] => pure acc
    | '\n' :: _ => do advance; mlBasicChars fuel ('\n' :: acc)
    | '\r' :: '\n' :: _ => do advanceBy 2; mlBasicChars fuel ('\n' :: acc)
    | c :: _ =>
      if isBasicChar c then do
        advance
        mlBasicChars fuel (c :: acc)
      else pure acc
    | [] => pure acc

/-- The characters of a multi-line literal string up to its closing apostrophes, in reverse. -/
def mlLiteralChars : Nat → List Char → TomlM (List Char)
  | 0, acc => pure acc
  | fuel + 1, acc => do
    match ← ahead with
    | '\'' :: '\'' :: '\'' :: '\'' :: '\'' :: _ => do advanceBy 2; pure ('\'' :: '\'' :: acc)
    | '\'' :: '\'' :: '\'' :: '\'' :: _ => do advance; pure ('\'' :: acc)
    | '\'' :: '\'' :: '\'' :: _ => pure acc
    | ['\''] | ['\'', '\''] => pure acc
    | '\'' :: _ => do advance; mlLiteralChars fuel ('\'' :: acc)
    | '\n' :: _ => do advance; mlLiteralChars fuel ('\n' :: acc)
    | '\r' :: '\n' :: _ => do advanceBy 2; mlLiteralChars fuel ('\n' :: acc)
    | c :: _ =>
      if isLiteralChar c then do
        advance
        mlLiteralChars fuel (c :: acc)
      else pure acc
    | [] => pure acc

/-- Reads a string of any of the four forms, its first quote ahead. -/
def string : TomlM String := do
  if ← accept "\"\"\"" then
    let _ ← newline?
    let body ← mlBasicChars (← stepsLeft) []
    if !(← accept "\"\"\"") then fail (describe (some "multiline basic string") [] none)
    pure (String.ofList body.reverse)
  else if (← peek?) == some '"' then basicString
  else if ← accept "'''" then
    let _ ← newline?
    let body ← mlLiteralChars (← stepsLeft) []
    if !(← accept "'''") then fail (describe (some "multiline literal string") [] none)
    pure (String.ofList body.reverse)
  else literalString

/-- Whether a character may stand in a bare key. -/
def isBareKeyChar (c : Char) : Bool :=
  ('A' ≤ c && c ≤ 'Z') || ('a' ≤ c && c ≤ 'z') || isDigit c || c == '-' || c == '_'

/-- Reads one part of a key, or nothing when no key part starts here. -/
def simpleKey : TomlM (Option String) := do
  match ← peek? with
  | some '"' => pure (some (← basicString))
  | some '\'' => pure (some (← literalString))
  | _ =>
    let k ← takeWhile isBareKeyChar
    pure (if k.isEmpty then none else some k)

/-- The parts of a key after its first, each after a dot; a dot not followed by a part is left
unread. -/
def keyParts : Nat → List String → TomlM (List String)
  | 0, acc => pure acc.reverse
  | fuel + 1, acc => do
    let save ← get
    if (← peek?) == some '.' then
      advance
      blanks
      match ← simpleKey with
      | some k => do
        blanks
        keyParts fuel (k :: acc)
      | none => do
        set save
        pure acc.reverse
    else pure acc.reverse

/-- Reads a key: one or more parts joined by dots, blanks around each part. Fails softly when no
key starts here. -/
def key : TomlM (List String) := do
  blanks
  let some first ← simpleKey | failSoft (describe (some "key") [] none)
  blanks
  keyParts (← stepsLeft) [first]

/-- The digits of a run that may hold single underscores between digits, the first digit read
already; the underscores are dropped. An underscore not followed by a digit fails just after it
with `failure`. -/
def digitRun (ok : Char → Bool) (failure : String) : Nat → List Char → TomlM (List Char)
  | 0, acc => pure acc.reverse
  | fuel + 1, acc => do
    match ← ahead with
    | '_' :: r =>
      advance
      match r with
      | c :: _ =>
        if ok c then do
          advance
          digitRun ok failure fuel (c :: acc)
        else fail failure
      | [] => fail failure
    | c :: _ =>
      if ok c then do
        advance
        digitRun ok failure fuel (c :: acc)
      else pure acc.reverse
    | [] => pure acc.reverse

/-- Reads the digits of a fraction or an exponent: at least one digit. `first` is the error when
the first digit is missing, `later` the error after an underscore. -/
def exponentDigits (first later : String) : TomlM (List Char) := do
  match ← peek? with
  | some c =>
    if isDigit c then do
      advance
      digitRun isDigit later (← stepsLeft) [c]
    else fail first
  | none => fail first

/-- The largest integer a TOML integer may hold, plus one. -/
def intBound : Nat := Nat.pow 2 63

/-- Reads an integer in base 16, 8 or 2 after its two-character prefix, which is ahead. -/
def prefixedInteger (start : Nat) (base : Nat) (label : String) : TomlM TomlValue := do
  advanceBy 2
  let ok : Char → Bool := fun c => match hexValue c with
    | some v => decide (v < base)
    | none => false
  match ← peek? with
  | some c =>
    if ok c then do
      advance
      let ds ← digitRun ok (describe (some label) ["digit"] none) (← stepsLeft) [c]
      let v := ds.foldl (fun acc d => acc * base + (hexValue d).getD 0) 0
      if v ≥ intBound then failAt start "number too large to fit in target type"
      pure (.int v)
    else fail (describe (some label) [] none)
  | none => fail (describe (some label) [] none)

/-- Two digits ahead as a number, if they are there. -/
def twoDigitsAhead (r : List Char) : Option Nat :=
  match r with
  | a :: b :: _ => if isDigit a && isDigit b then some (digitsValue [a, b]) else none
  | _ => none

/-- Reads a two-digit field of a date or time, which must lie in `lo … hi`. -/
def field (lo hi : Nat) (label : String) : TomlM Nat := do
  match twoDigitsAhead (← ahead) with
  | some v =>
    if lo ≤ v && v ≤ hi then do
      advanceBy 2
      pure v
    else fail (describe (some label) [] (some outOfRange))
  | none => fail (describe (some label) [] none)

/-- Reads the separator `c` of a date or time. -/
def separator (c : Char) (label : String) : TomlM Unit := do
  if (← peek?) == some c then advance else fail (describe (some label) [] none)

/-- A number of at least two digits, zero-padded. -/
def pad2 (n : Nat) : String :=
  if n < 10 then "0" ++ Nat.repr n else Nat.repr n

/-- Whether `year` is a leap year. -/
def isLeap (year : Nat) : Bool :=
  year % 4 == 0 && (year % 100 != 0 || year % 400 == 0)

/-- The number of days in a month of a year. -/
def monthDays (year month : Nat) : Nat :=
  match month with
  | 2 => if isLeap year then 29 else 28
  | 4 | 6 | 9 | 11 => 30
  | _ => 31

/-- Whether a time of day starts here: two digits naming an hour, then a colon. -/
def timeAhead (r : List Char) : Bool :=
  match twoDigitsAhead r with
  | some h => h ≤ 23 && r.getD 2 ' ' == ':'
  | none => false

/-- Whether a date starts here: four digits, then a dash. -/
def dateAhead (r : List Char) : Bool :=
  (r.take 4).length == 4 && (r.take 4).all isDigit && r.getD 4 ' ' == '-'

/-- Reads a time of day whose hour and colon are ahead, as its normalised text. -/
def timeOfDay : TomlM String := do
  let label := "date-time"
  let hour ← field 0 23 label
  separator ':' label
  let minute ← field 0 59 label
  separator ':' label
  let second ← field 0 60 label
  let fraction ← match ← ahead with
    | '.' :: c :: _ =>
      if isDigit c then do
        advance
        let ds := (← takeWhile isDigit).toList
        let kept := ds.take 9
        let nanos := digitsValue kept * Nat.pow 10 (9 - kept.length)
        if nanos == 0 then pure ""
        else
          let text := (Nat.repr nanos).toList
          let padded := List.replicate (9 - text.length) '0' ++ text
          pure ("." ++ String.ofList (padded.reverse.dropWhile (· == '0')).reverse)
      else pure ""
    | _ => pure ""
  pure (pad2 hour ++ ":" ++ pad2 minute ++ ":" ++ pad2 second ++ fraction)

/-- Reads the offset after a date and time, if one is there, as its normalised text. -/
def timeOffset : TomlM String := do
  match ← peek? with
  | some 'Z' | some 'z' => do
    advance
    pure "Z"
  | some '+' | some '-' => do
    let negative := (← peek?) == some '-'
    advance
    let label := "time offset"
    let hours ← field 0 23 label
    separator ':' label
    let minutes ← field 0 59 label
    let sign := if negative && hours * 60 + minutes != 0 then "-" else "+"
    pure (sign ++ pad2 hours ++ ":" ++ pad2 minutes)
  | _ => pure ""

/-- Reads a date, with a time and offset when they follow, as its normalised text. The year and
its dash are ahead. -/
def dateTime : TomlM String := do
  let label := "date-time"
  let year := digitsValue ((← ahead).take 4)
  let yearText := String.ofList ((← ahead).take 4)
  advanceBy 5
  let month ← field 1 12 label
  separator '-' label
  let dayStart ← offset
  let day ← field 1 31 label
  if day > monthDays year month then failAt dayStart (describe (some label) [] (some outOfRange))
  let date := yearText ++ "-" ++ pad2 month ++ "-" ++ pad2 day
  match ← ahead with
  | d :: r =>
    if (d == 'T' || d == 't' || d == ' ') && timeAhead r then do
      advance
      let time ← timeOfDay
      let zone ← timeOffset
      pure (date ++ "T" ++ time ++ zone)
    else pure date
  | [] => pure date

/-- Reads a float whose integer part has been read, a dot or an exponent mark ahead, and
returns its value. `start` is where the number began. -/
def floatTail (start : Nat) (negative : Bool) (whole : List Char) : TomlM TomlValue := do
  let label := some "floating-point number"
  let fraction ← if (← peek?) == some '.' then do
      advance
      exponentDigits (describe label ["digit"] none) (describe label ["digit", "digit"] none)
    else pure []
  let exponent ← match ← peek? with
    | some 'e' | some 'E' => do
      advance
      let negExp ← match ← peek? with
        | some '+' => do advance; pure false
        | some '-' => do advance; pure true
        | _ => pure false
      let ds ← exponentDigits (describe label [] none) (describe label ["digit"] none)
      let v : Int := digitsValue ds
      pure (if negExp then -v else v)
    | _ => pure 0
  let magnitude := Decimal.nearestOfDecimal (digitsValue (whole ++ fraction))
    (exponent - fraction.length)
  if !negative && magnitude.isInf then failAt start (describe label [] none)
  pure (.float (if negative then -magnitude else magnitude))

/-- Reads a number, date or time, its first character (a digit or a sign) ahead. Fails softly
when a sign is followed by neither digits nor `inf`/`nan`. -/
def numeric : TomlM TomlValue := do
  let start ← offset
  let r ← ahead
  if dateAhead r then return .datetime (← dateTime)
  if timeAhead r then return .datetime (← timeOfDay)
  if r.take 2 == ['0', 'x'] then return (← prefixedInteger start 16 "hexadecimal integer")
  if r.take 2 == ['0', 'o'] then return (← prefixedInteger start 8 "octal integer")
  if r.take 2 == ['0', 'b'] then return (← prefixedInteger start 2 "binary integer")
  let negative := r.head? == some '-'
  if r.head? == some '+' || negative then advance
  match ← peek? with
  | some c =>
    if isDigit c then
      advance
      let whole ← if c == '0' then pure ['0']
        else digitRun isDigit (describe (some "integer") ["digit"] none) (← stepsLeft) [c]
      match ← peek? with
      | some '.' | some 'e' | some 'E' => floatTail start negative whole
      | _ =>
        let v := digitsValue whole
        if negative then
          if v > intBound then failAt start "number too small to fit in target type"
          pure (.int (-(v : Int)))
        else
          if v ≥ intBound then failAt start "number too large to fit in target type"
          pure (.int v)
    else if ← accept "inf" then pure (.float (if negative then -1 / 0 else 1 / 0))
    else if ← accept "nan" then pure (.float (if negative then -(0 / 0) else 0 / 0))
    else failSoft (describe (some "integer") [] none)
  | none => failSoft (describe (some "integer") [] none)

end CpuBench.Toml
