import CpuBench.Json5.Node
import CpuBench.Text.Category

/-!
# Reading JSON5 text

The reader follows the grammar as a parsing expression grammar: alternatives are tried in order
and the first that matches wins, repetitions take as much as they can, and a failed alternative
gives back what it read.

While reading, it keeps the furthest position at which a named part failed, with the parts that
failed there. A failed part first drops the failures its own pieces left at its start, unless
they left exactly one, which is the more telling and stays in its place. Failures of plain
tokens (brackets, colons, commas, quotes) are not recorded; that is why an error points at the
start of the last value or name that could not be read.

Blanks, line breaks and comments are skipped between the tokens of objects and arrays, but not
inside strings, names and numbers.
-/

namespace CpuBench.Json5

/-- The furthest position at which a named part failed, and the parts that failed there, in the
order they failed. -/
structure Tracker where
  furthest : Nat := 0
  expected : List Rule := []

/-- How many failures are recorded at `pos`. -/
def Tracker.attemptsAt (t : Tracker) (pos : Nat) : Nat :=
  if t.furthest == pos then t.expected.length else 0

/-- Records that part `r`, begun at `pos`, failed, where `before` failures stood at `pos` when it
began. -/
def Tracker.fail (t : Tracker) (r : Rule) (pos before : Nat) : Tracker :=
  let now := t.attemptsAt pos
  if now > before && now - before == 1 then t
  else if pos == t.furthest then ⟨pos, t.expected.take before ++ [r]⟩
  else if pos > t.furthest then ⟨pos, [r]⟩
  else t

/-- A reading step from a position: a result and the position after it, or nothing; failures
are recorded along the way. -/
abbrev Parse (α : Type) := Nat → StateM Tracker (Option (α × Nat))

/-- Reads a named part, recording its failure. -/
def named (r : Rule) (p : Parse α) : Parse α := fun pos => do
  let before := (← get).attemptsAt pos
  match ← p pos with
  | some x => pure (some x)
  | none =>
    modify fun t => t.fail r pos before
    pure none

/-- Whether the characters `s` stand at `pos`. -/
def matchesAt (cs : Array Char) : List Char → Nat → Bool
  | [], _ => true
  | c :: rest, pos => cs[pos]? == some c && matchesAt cs rest (pos + 1)

/-- Whether the characters `s` stand at `pos`, ASCII letters in either case. -/
def matchesFoldedAt (cs : Array Char) : List Char → Nat → Bool
  | [], _ => true
  | c :: rest, pos =>
    (cs[pos]?.map Char.toLower) == some c.toLower && matchesFoldedAt cs rest (pos + 1)

/-- Whether `c` ends a line: line feed, carriage return, line or paragraph separator. -/
def isLineTerminator (c : Char) : Bool :=
  c == '\n' || c == '\r' || c == '\u2028' || c == '\u2029'

/-- Whether `c` is skipped between tokens: tab, vertical tab, form feed, space, no-break space,
byte order mark, any space separator, or a line terminator. -/
def isBlank (c : Char) : Bool :=
  c == '\t' || c == '\x0B' || c == '\x0C' || c == ' ' || c == '\xA0' || c == '\uFEFF' ||
    Text.isSpaceSeparator c || isLineTerminator c

/-- The position after the first `*/` at or after `pos`, if there is one. -/
def blockCommentEnd (cs : Array Char) : Nat → Nat → Option Nat
  | 0, _ => none
  | fuel + 1, pos =>
    if pos ≥ cs.size then none
    else if matchesAt cs ['*', '/'] pos then some (pos + 2)
    else blockCommentEnd cs fuel (pos + 1)

/-- The first line terminator at or after `pos`, or the end of the text. -/
def lineEnd (cs : Array Char) : Nat → Nat → Nat
  | 0, pos => pos
  | fuel + 1, pos =>
    match cs[pos]? with
    | some c => if isLineTerminator c then pos else lineEnd cs fuel (pos + 1)
    | none => pos

/-- The end of a comment starting at `pos`: a block comment `/* … */`, which must be closed, or
a line comment `// …` up to the end of its line. -/
def commentEnd (cs : Array Char) (pos : Nat) : Option Nat :=
  if matchesAt cs ['/', '*'] pos then blockCommentEnd cs cs.size (pos + 2)
  else if matchesAt cs ['/', '/'] pos then some (lineEnd cs cs.size (pos + 2))
  else none

/-- Skips blanks and comments. -/
def skipFrom (cs : Array Char) : Nat → Nat → Nat
  | 0, pos => pos
  | fuel + 1, pos =>
    match cs[pos]? with
    | some c =>
      if isBlank c then skipFrom cs fuel (pos + 1)
      else match commentEnd cs pos with
        | some e => skipFrom cs fuel e
        | none => pos
    | none => pos

/-- Skips blanks and comments from `pos`. -/
def skip (cs : Array Char) (pos : Nat) : Nat :=
  skipFrom cs (cs.size + 1) pos

/-- Whether `c` is an ASCII hexadecimal digit. -/
def isHexDigit (c : Char) : Bool :=
  c.isDigit || ('a' ≤ c && c ≤ 'f') || ('A' ≤ c && c ≤ 'F')

/-- The position after the longest run of characters with property `p` from `pos`. -/
def runEnd (cs : Array Char) (p : Char → Bool) : Nat → Nat → Nat
  | 0, pos => pos
  | fuel + 1, pos =>
    match cs[pos]? with
    | some c => if p c then runEnd cs p fuel (pos + 1) else pos
    | none => pos

/-- The end of a non-empty run of characters with property `p` from `pos`. -/
def runEnd1 (cs : Array Char) (p : Char → Bool) (pos : Nat) : Option Nat :=
  let e := runEnd cs p cs.size pos
  if e > pos then some e else none

/-- The end of a decimal integer: `0`, or a non-zero digit and any digits. -/
def integerEnd (cs : Array Char) (pos : Nat) : Option Nat :=
  match cs[pos]? with
  | some '0' => some (pos + 1)
  | some c => if '1' ≤ c && c ≤ '9' then some (runEnd cs Char.isDigit cs.size (pos + 1)) else none
  | none => none

/-- The end of an exponent: `e` or `E`, an optional sign, and digits. -/
def exponentEnd (cs : Array Char) (pos : Nat) : Option Nat :=
  if matchesFoldedAt cs ['e'] pos then
    let p := if cs[pos + 1]? == some '+' || cs[pos + 1]? == some '-' then pos + 2 else pos + 1
    runEnd1 cs Char.isDigit p
  else none

/-- The end of an optional exponent. -/
def optionalExponentEnd (cs : Array Char) (pos : Nat) : Nat :=
  (exponentEnd cs pos).getD pos

/-- The end of a decimal number: an integer with a point, optional digits and an optional
exponent; a point, digits and an optional exponent; or an integer and an optional exponent. -/
def decimalEnd (cs : Array Char) (pos : Nat) : Option Nat :=
  let withPoint := (integerEnd cs pos).bind fun p =>
    if cs[p]? == some '.' then
      some (optionalExponentEnd cs (runEnd cs Char.isDigit cs.size (p + 1)))
    else none
  match withPoint with
  | some e => some e
  | none =>
    let leadingPoint :=
      if cs[pos]? == some '.' then (runEnd1 cs Char.isDigit (pos + 1)).map (optionalExponentEnd cs)
      else none
    match leadingPoint with
    | some e => some e
    | none => (integerEnd cs pos).map (optionalExponentEnd cs)

/-- The end of an unsigned number: hexadecimal `0x…`, decimal, `Infinity` or `NaN`. -/
def numericEnd (cs : Array Char) (pos : Nat) : Option Nat :=
  let hex := if matchesFoldedAt cs ['0', 'x'] pos then runEnd1 cs isHexDigit (pos + 2) else none
  match hex with
  | some e => some e
  | none =>
    match decimalEnd cs pos with
    | some e => some e
    | none =>
      if matchesAt cs "Infinity".toList pos then some (pos + 8)
      else if matchesAt cs "NaN".toList pos then some (pos + 3)
      else none

/-- The text between two positions. -/
def slice (cs : Array Char) (start stop : Nat) : String :=
  String.ofList ((cs.toList.take stop).drop start)

/-- Reads a number with an optional sign, as its text. -/
def number (cs : Array Char) : Parse String := fun pos =>
  let start := if cs[pos]? == some '+' || cs[pos]? == some '-' then pos + 1 else pos
  pure ((numericEnd cs start).map fun e => (slice cs pos e, e))

/-- Reads `true` or `false`. -/
def boolean (cs : Array Char) : Parse Bool := fun pos =>
  pure (if matchesAt cs "true".toList pos then some (true, pos + 4)
    else if matchesAt cs "false".toList pos then some (false, pos + 5)
    else none)

/-- Reads `null`. -/
def null (cs : Array Char) : Parse Unit := fun pos =>
  pure (if matchesAt cs "null".toList pos then some ((), pos + 4) else none)

/-- Reads a character that stands for itself: anything but a backslash or a line terminator. -/
def charLiteral (cs : Array Char) : Parse Piece := fun pos =>
  pure (match cs[pos]? with
    | some c => if c == '\\' || isLineTerminator c then none else some (.char c, pos + 1)
    | none => none)

/-- Whether `c` is escaped as itself or as a control character: a quote, a backslash, or one of
`b f n r t v`. -/
def isSingleEscape (c : Char) : Bool :=
  c == '\'' || c == '"' || c == '\\' || c == 'b' || c == 'f' || c == 'n' || c == 'r' ||
    c == 't' || c == 'v'

/-- Reads the character of a one-character escape: a single escape, or any character that is
not a digit, `x`, `u` or a line terminator. -/
def charEscape (cs : Array Char) : Parse Piece := fun pos =>
  pure (match cs[pos]? with
    | some c =>
      if isSingleEscape c || !(c.isDigit || c == 'x' || c == 'u' || isLineTerminator c) then
        some (.escape c, pos + 1)
      else none
    | none => none)

/-- Reads the escape `0`. -/
def nulEscape (cs : Array Char) : Parse Piece := fun pos =>
  pure (if cs[pos]? == some '0' then some (.nul, pos + 1) else none)

/-- Reads `n` hexadecimal digits, as the piece that `piece` makes of them. -/
def codeDigits (cs : Array Char) (n : Nat) (piece : String → Piece) : Parse Piece := fun pos =>
  pure (if (List.range n).all fun i => (cs[pos + i]?.map isHexDigit) == some true then
      some (piece (slice cs pos (pos + n)), pos + n)
    else none)

/-- Reads what follows a backslash in a string: a one-character escape, `0`, `x` and two
hexadecimal digits, or `u` and four. -/
def escapeSequence (cs : Array Char) : Parse Piece := fun pos => do
  if let some r ← named .charEscapeSequence (charEscape cs) pos then return some r
  if let some r ← named .nulEscapeSequence (nulEscape cs) pos then return some r
  if cs[pos]? == some 'x' then
    if let some r ← named .hexEscapeSequence (codeDigits cs 2 .hex) (pos + 1) then return some r
  if cs[pos]? == some 'u' then
    if let some r ← named .unicodeEscapeSequence (codeDigits cs 4 .unicode) (pos + 1) then
      return some r
  pure none

/-- The end of a line break after a backslash, which continues a string on the next line. -/
def continuationEnd (cs : Array Char) (pos : Nat) : Option Nat :=
  if cs[pos]? != some '\\' then none
  else if matchesAt cs ['\r', '\n'] (pos + 1) then some (pos + 3)
  else match cs[pos + 1]? with
    | some c => if isLineTerminator c then some (pos + 2) else none
    | none => none

/-- Reads one character of a string quoted by `q`: an escape, a line continuation (no piece),
or a character other than `q` that stands for itself. -/
def quotedChar (cs : Array Char) (q : Char) : Parse (Option Piece) := fun pos => do
  if cs[pos]? == some '\\' then
    if let some (p, e) ← escapeSequence cs (pos + 1) then return some (some p, e)
  if let some e := continuationEnd cs pos then return some (none, e)
  if cs[pos]? == some q then return none
  match ← named .charLiteral (charLiteral cs) pos with
  | some (p, e) => pure (some (some p, e))
  | none => pure none

/-- Reads the characters of a string quoted by `q` up to its closing quote. -/
def quotedRest (cs : Array Char) (q : Char) : Nat → List Piece → Parse (List Piece)
  | 0, _ => fun _ => pure none
  | fuel + 1, acc => fun pos => do
    match ← quotedChar cs q pos with
    | some (piece, e) => quotedRest cs q fuel (acc ++ piece.toList) e
    | none => pure (if cs[pos]? == some q then some (acc, pos + 1) else none)

/-- Reads a string in double or single quotes, as its pieces. -/
def string (cs : Array Char) : Parse (List Piece) := fun pos => do
  if cs[pos]? == some '"' then
    if let some r ← quotedRest cs '"' cs.size [] (pos + 1) then return some r
  if cs[pos]? == some '\'' then
    if let some r ← quotedRest cs '\'' cs.size [] (pos + 1) then return some r
  pure none

/-- Reads the first character of a name: a letter, `$` or `_`, or a code escape `\uHHHH`. -/
def nameStart (cs : Array Char) : Parse Piece := fun pos => do
  match cs[pos]? with
  | some c =>
    if Text.isLetter c || c == '$' || c == '_' then
      if let some r ← named .charLiteral (charLiteral cs) pos then return some r
  | none => pure ()
  if matchesAt cs ['\\', 'u'] pos then
    if let some r ← named .unicodeEscapeSequence (codeDigits cs 4 .unicode) (pos + 2) then
      return some r
  pure none

/-- Reads a later character of a name: one that may start it, a mark, a digit, connector
punctuation, or a zero-width joiner or non-joiner. -/
def namePart (cs : Array Char) : Parse Piece := fun pos => do
  if let some r ← nameStart cs pos then return some r
  match cs[pos]? with
  | some c =>
    if Text.isNameMark c || c == '\u200C' || c == '\u200D' then
      named .charLiteral (charLiteral cs) pos
    else pure none
  | none => pure none

/-- Reads the rest of a name. -/
def nameRest (cs : Array Char) : Nat → List Piece → Nat → StateM Tracker (List Piece × Nat)
  | 0, acc, pos => pure (acc, pos)
  | fuel + 1, acc, pos => do
    match ← namePart cs pos with
    | some (p, e) => nameRest cs fuel (acc ++ [p]) e
    | none => pure (acc, pos)

/-- Reads a name, as its pieces. -/
def identifier (cs : Array Char) : Parse (List Piece) := fun pos => do
  match ← nameStart cs pos with
  | some (p, e) => pure (some (← nameRest cs cs.size [p] e))
  | none => pure none

/-- Reads an object key: a name or a string. -/
def key (cs : Array Char) : Parse (List Piece) := fun pos => do
  if let some r ← named .identifier (identifier cs) pos then return some r
  named .string (string cs) pos

mutual

/-- Reads a value: `null`, a boolean, a string, a number, an object or an array. -/
def value (cs : Array Char) : Nat → Parse Node
  | 0 => fun _ => pure none
  | fuel + 1 => fun pos => do
    if let some (_, e) ← named .null (null cs) pos then return some (.null, e)
    if let some (b, e) ← named .boolean (boolean cs) pos then return some (.bool b, e)
    if let some (ps, e) ← named .string (string cs) pos then return some (.string ps, e)
    if let some (t, e) ← named .number (number cs) pos then return some (.number t, e)
    if let some (es, e) ← named .object (object cs fuel) pos then return some (.object es, e)
    if let some (xs, e) ← named .array (array cs fuel) pos then return some (.array xs, e)
    pure none

/-- Reads an object: `{}`, or entries separated by commas, with an optional comma at the end. -/
def object (cs : Array Char) : Nat → Parse (List (List Piece × Node))
  | 0 => fun _ => pure none
  | fuel + 1 => fun pos => do
    if cs[pos]? != some '{' then return none
    let p := skip cs (pos + 1)
    if cs[p]? == some '}' then return some ([], p + 1)
    let some (first, p) ← entry cs fuel p | return none
    let (rest, p) ← moreEntries cs fuel [] (skip cs p)
    let p := skip cs p
    let p := skip cs (if cs[p]? == some ',' then p + 1 else p)
    pure (if cs[p]? == some '}' then some (first :: rest, p + 1) else none)

/-- Reads an entry of an object: a key, a colon and a value. -/
def entry (cs : Array Char) : Nat → Parse (List Piece × Node)
  | 0 => fun _ => pure none
  | fuel + 1 => fun pos => do
    let some (k, p) ← key cs pos | return none
    let p := skip cs p
    if cs[p]? != some ':' then return none
    let some (v, p) ← value cs fuel (skip cs (p + 1)) | return none
    pure (some ((k, v), p))

/-- Reads further entries, each after a comma, as long as they read. -/
def moreEntries (cs : Array Char) : Nat → List (List Piece × Node) → Nat →
    StateM Tracker (List (List Piece × Node) × Nat)
  | 0, acc, pos => pure (acc, pos)
  | fuel + 1, acc, pos => do
    if cs[pos]? != some ',' then return (acc, pos)
    match ← entry cs fuel (skip cs (pos + 1)) with
    | some (x, e) => moreEntries cs fuel (acc ++ [x]) (skip cs e)
    | none => pure (acc, pos)

/-- Reads an array: `[]`, or values separated by commas, with an optional comma at the end. -/
def array (cs : Array Char) : Nat → Parse (List Node)
  | 0 => fun _ => pure none
  | fuel + 1 => fun pos => do
    if cs[pos]? != some '[' then return none
    let p := skip cs (pos + 1)
    if cs[p]? == some ']' then return some ([], p + 1)
    let some (first, p) ← value cs fuel p | return none
    let (rest, p) ← moreItems cs fuel [] (skip cs p)
    let p := skip cs p
    let p := skip cs (if cs[p]? == some ',' then p + 1 else p)
    pure (if cs[p]? == some ']' then some (first :: rest, p + 1) else none)

/-- Reads further items, each after a comma, as long as they read. -/
def moreItems (cs : Array Char) : Nat → List Node → Nat → StateM Tracker (List Node × Nat)
  | 0, acc, pos => pure (acc, pos)
  | fuel + 1, acc, pos => do
    if cs[pos]? != some ',' then return (acc, pos)
    match ← value cs fuel (skip cs (pos + 1)) with
    | some (x, e) => moreItems cs fuel (acc ++ [x]) (skip cs e)
    | none => pure (acc, pos)

end

/-- Reads the end of the text. -/
def endOfText (cs : Array Char) : Parse Unit := fun pos =>
  pure (if pos == cs.size then some ((), pos) else none)

/-- The value a JSON5 text holds, or where and why reading failed. -/
def Node.ofText (text : String) : Except Failure Node :=
  let cs := text.toList.toArray
  let whole : StateM Tracker (Option Node) := do
    let some (v, p) ← value cs (4 * cs.size + 16) (skip cs 0) | return none
    let some _ ← named .eoi (endOfText cs) (skip cs p) | return none
    pure (some v)
  match whole.run {} with
  | (some v, _) => .ok v
  | (none, t) => .error ⟨t.furthest, sortRules t.expected⟩

end CpuBench.Json5
