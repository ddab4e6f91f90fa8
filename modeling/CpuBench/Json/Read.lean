import CpuBench.Json.Value
import CpuBench.Decimal.Reading
import CpuBench.Text.Debug

/-!
# Reading JSON text

A reader over the UTF-8 bytes of a text. It reads a whole `Value`, and it offers the steps that
typed readers are built from: the next array element or object key, the colon, the end of an
array or object, a number as a float, a string, and skipping a value unread.

## Positions and errors

An error names its cause and, in most cases, where it was noticed: the line (from 1) and the
column, counted in bytes since the last line break, of the last byte read. A cause noticed while
looking at the next byte without reading it points one byte further. An error raised by a typed
reader (a wrong type, a missing or repeated field) gets the position of the reader when the
enclosing value ends.

## Numbers

An integer is kept exactly while it fits an unsigned 64-bit word, or a signed one when negative;
`-0` is the float `-0.0`. Digits beyond that, a fraction or an exponent make a float, read by
`Decimal.readParts` from a significand of at most 64 bits: digits that no longer fit are counted
into the exponent before the point and dropped after it. A float too large for the type is an
error; an exponent too large in magnitude gives an error or zero.

## Nesting

At most 127 arrays and objects may be open at once.
-/

namespace CpuBench.Json

/-- The causes of a reading error. -/
inductive ErrorCode where
  | custom (message : String)
  | eofWhileParsingList
  | eofWhileParsingObject
  | eofWhileParsingString
  | eofWhileParsingValue
  | expectedColon
  | expectedListCommaOrEnd
  | expectedObjectCommaOrEnd
  | expectedSomeIdent
  | expectedSomeValue
  | invalidEscape
  | invalidNumber
  | numberOutOfRange
  | invalidUnicodeCodePoint
  | controlCharacterWhileParsingString
  | keyMustBeAString
  | loneLeadingSurrogateInHexEscape
  | trailingComma
  | trailingCharacters
  | unexpectedEndOfHexEscape
  | recursionLimitExceeded
  deriving DecidableEq, Repr

/-- The text of a cause. -/
def ErrorCode.message : ErrorCode → String
  | .custom m => m
  | .eofWhileParsingList => "EOF while parsing a list"
  | .eofWhileParsingObject => "EOF while parsing an object"
  | .eofWhileParsingString => "EOF while parsing a string"
  | .eofWhileParsingValue => "EOF while parsing a value"
  | .expectedColon => "expected `:`"
  | .expectedListCommaOrEnd => "expected `,` or `]`"
  | .expectedObjectCommaOrEnd => "expected `,` or `\x7d`"
  | .expectedSomeIdent => "expected ident"
  | .expectedSomeValue => "expected value"
  | .invalidEscape => "invalid escape"
  | .invalidNumber => "invalid number"
  | .numberOutOfRange => "number out of range"
  | .invalidUnicodeCodePoint => "invalid unicode code point"
  | .controlCharacterWhileParsingString =>
    "control character (\\u0000-\\u001F) found while parsing a string"
  | .keyMustBeAString => "key must be a string"
  | .loneLeadingSurrogateInHexEscape => "lone leading surrogate in hex escape"
  | .trailingComma => "trailing comma"
  | .trailingCharacters => "trailing characters"
  | .unexpectedEndOfHexEscape => "unexpected end of hex escape"
  | .recursionLimitExceeded => "recursion limit exceeded"

/-- A reading error; line 0 means that no position is known yet. -/
structure Error where
  code : ErrorCode
  line : Nat
  column : Nat
  deriving DecidableEq, Repr

/-- An error without a position. -/
def Error.custom (message : String) : Error :=
  ⟨.custom message, 0, 0⟩

/-- The text of an error, with its position when it has one. -/
def Error.message (e : Error) : String :=
  if e.line == 0 then e.code.message
  else e.code.message ++ " at line " ++ Nat.repr e.line ++ " column " ++ Nat.repr e.column

/-- What a typed reader found instead of what it expected. -/
inductive Unexpected where
  | bool (b : Bool)
  | number (n : Number)
  | str (s : String)
  | null
  | seq
  | map

/-- How an unexpected value is described; a float is written as JSON writes it. -/
def Unexpected.describe : Unexpected → String
  | .bool b => "boolean `" ++ (if b then "true" else "false") ++ "`"
  | .number (.nat n) => "integer `" ++ Nat.repr n ++ "`"
  | .number (.neg n) => "integer `-" ++ Nat.repr n.natAbs ++ "`"
  | .number (.float x) => "floating point `" ++ Decimal.Notation.json.render x ++ "`"
  | .str s => "string " ++ Text.quote s
  | .null => "null"
  | .seq => "sequence"
  | .map => "map"

/-- What a value is, for an error that did not expect it. -/
def Unexpected.ofValue : Value → Unexpected
  | .null => .null
  | .bool b => .bool b
  | .number n => .number n
  | .string s => .str s
  | .array _ => .seq
  | .object _ => .map

/-- A list of names as an error lists what it expected: `` `a` ``, `` `a` or `b` ``, or
`` one of `a`, `b`, `c` ``. -/
def oneOf (names : List String) : String :=
  let ticked := names.map fun n => "`" ++ n ++ "`"
  match ticked with
  | [] => "nothing"
  | [a] => a
  | [a, b] => a ++ " or " ++ b
  | _ => "one of " ++ ", ".intercalate ticked

/-- The error of a name that is none of the variants of an enumeration. -/
def Error.unknownVariant (name : String) (variants : List String) : Error :=
  .custom ("unknown variant `" ++ name ++ "`, " ++
    (if variants.isEmpty then "there are no variants" else "expected " ++ oneOf variants))

/-- The error of a value of the wrong type. -/
def Error.invalidType (found : Unexpected) (expected : String) : Error :=
  .custom ("invalid type: " ++ found.describe ++ ", expected " ++ expected)

/-- The error of a value of the right type that is not acceptable. -/
def Error.invalidValue (found : Unexpected) (expected : String) : Error :=
  .custom ("invalid value: " ++ found.describe ++ ", expected " ++ expected)

/-- The error of a sequence of the wrong length. -/
def Error.invalidLength (length : Nat) (expected : String) : Error :=
  .custom ("invalid length " ++ Nat.repr length ++ ", expected " ++ expected)

/-- The error of a field that is missing. -/
def Error.missingField (name : String) : Error :=
  .custom ("missing field `" ++ name ++ "`")

/-- The error of a field given twice. -/
def Error.duplicateField (name : String) : Error :=
  .custom ("duplicate field `" ++ name ++ "`")

/-- A reader: the bytes to read, and the index of the next byte, which an error keeps. -/
abbrev ReadM := ReaderT ByteArray (EStateM Error Nat)

namespace Reader

/-- Line and column of the byte index `i`: lines from 1, columns counting bytes since the last
line break. -/
def positionOf (bytes : ByteArray) (i : Nat) : Nat × Nat :=
  (List.range (min i bytes.size)).foldl (fun (line, col) k =>
    if bytes.get! k == 10 then (line + 1, 0) else (line, col + 1)) (1, 0)

/-- The next byte, not read. -/
def peek? : ReadM (Option UInt8) := do
  let bytes ← read
  let i ← get
  pure bytes[i]?

/-- Reads past one byte. -/
def eat : ReadM Unit :=
  modify (· + 1)

/-- The next byte, read. -/
def next? : ReadM (Option UInt8) := do
  let c ← peek?
  if c.isSome then eat
  pure c

/-- The next byte, or `0` at the end. -/
def peekOrZero : ReadM UInt8 := do
  pure ((← peek?).getD 0)

/-- An error at the last byte read. -/
def errorHere (code : ErrorCode) : ReadM Error := do
  let (line, column) := positionOf (← read) (← get)
  pure ⟨code, line, column⟩

/-- An error at the next byte, not yet read. -/
def errorAhead (code : ErrorCode) : ReadM Error := do
  let bytes ← read
  let (line, column) := positionOf bytes (min ((← get) + 1) bytes.size)
  pure ⟨code, line, column⟩

/-- Fails at the last byte read. -/
def failHere (code : ErrorCode) : ReadM α := do
  throw (← errorHere code)

/-- Fails at the next byte. -/
def failAhead (code : ErrorCode) : ReadM α := do
  throw (← errorAhead code)

/-- Gives an error without a position the position of the last byte read. -/
def place (e : Error) : ReadM Error :=
  if e.line == 0 then errorHere e.code else pure e

/-- Runs `x`, and on failure places its error and fails with it. -/
def placing (x : ReadM α) : ReadM α :=
  tryCatch x fun e => do throw (← place e)

/-- Runs `x` and hands back its outcome; the position stays where `x` left it. -/
def attempt (x : ReadM α) : ReadM (Except Error α) :=
  tryCatch (do pure (.ok (← x))) fun e => pure (.error e)

/-- The outcome of a container whose contents came out as `ret` and whose end as `close`: the
contents' error first. -/
def firstError (ret : Except Error α) (close : Except Error Unit) : ReadM α :=
  match ret, close with
  | .ok a, .ok () => pure a
  | .error e, _ => throw e
  | .ok _, .error e => throw e

/-- A number of steps that no loop over the bytes can use up. -/
def budget : ReadM Nat := do
  pure ((← read).size + 300)

/-- Skips blanks (space, tab, line feed, carriage return) and shows the next byte. -/
def skipBlanks : ReadM (Option UInt8) := do
  let rec go : Nat → ReadM (Option UInt8)
    | 0 => peek?
    | fuel + 1 => do
      match ← peek? with
      | some b => if b == 32 || b == 10 || b == 9 || b == 13 then eat; go fuel else pure (some b)
      | none => pure none
  go (← budget)

/-- Reads the rest of a keyword after its first byte. -/
def keyword (rest : List UInt8) : ReadM Unit := do
  for expected in rest do
    match ← next? with
    | some b => if b != expected then failHere .expectedSomeIdent
    | none => failHere .eofWhileParsingValue

/-- Whether `b` is an ASCII digit. -/
def isDigit (b : UInt8) : Bool :=
  48 ≤ b && b ≤ 57

/-- The value of an ASCII digit. -/
def digitOf (b : UInt8) : Nat :=
  b.toNat - 48

/-- The largest signed 32-bit integer. -/
def i32Max : Int := (Nat.pow 2 31 : Int) - 1

/-- Clamps into the signed 32-bit range. -/
def clampI32 (x : Int) : Int :=
  max (-(Nat.pow 2 31 : Int)) (min i32Max x)

/-- The float `± significand · 10^exponent`, or an out-of-range error here. -/
def float (positive : Bool) (significand : Nat) (exponent : Int) : ReadM Float :=
  match Decimal.readParts positive significand exponent with
  | .ok f => pure f
  | .error .outOfRange => failHere .numberOutOfRange

/-- After an exponent too large in magnitude: an error for a growing non-zero value, otherwise
the remaining digits are skipped and the value is a signed zero. -/
def exponentOverflow (positive zeroSignificand positiveExp : Bool) : ReadM Float := do
  if !zeroSignificand && positiveExp then failHere .numberOutOfRange
  let rec skip : Nat → ReadM Unit
    | 0 => pure ()
    | fuel + 1 => do if isDigit (← peekOrZero) then eat; skip fuel
  skip (← budget)
  pure (if positive then 0.0 else -0.0)

/-- Reads an exponent after its `e` or `E`, which is still ahead. -/
def exponentPart (positive : Bool) (significand : Nat) (start : Int) : ReadM Float := do
  eat
  let positiveExp ← match ← peekOrZero with
    | 43 => do eat; pure true
    | 45 => do eat; pure false
    | _ => pure true
  let first ← match ← next? with
    | some b => if isDigit b then pure (digitOf b) else failHere .invalidNumber
    | none => failHere .eofWhileParsingValue
  let rec more : Nat → Nat → ReadM (Option Nat)
    | 0, e => pure (some e)
    | fuel + 1, e => do
      let b ← peekOrZero
      if isDigit b then
        eat
        let e' := e * 10 + digitOf b
        if e' > Nat.pow 2 31 - 1 then pure none else more fuel e'
      else pure (some e)
  match ← more (← budget) first with
  | none => exponentOverflow positive (significand == 0) positiveExp
  | some e =>
    let final := clampI32 (if positiveExp then start + e else start - e)
    float positive significand final

/-- Reads a fraction after its `.`, which is still ahead. -/
def fractionPart (positive : Bool) (significand : Nat) (before : Int) : ReadM Float := do
  eat
  let rec digits : Nat → Nat → Int → ReadM (Nat × Int × Bool)
    | 0, s, e => pure (s, e, false)
    | fuel + 1, s, e => do
      let b ← peekOrZero
      if isDigit b then
        if s * 10 + digitOf b ≥ Nat.pow 2 64 then pure (s, e, true)
        else eat; digits fuel (s * 10 + digitOf b) (e - 1)
      else pure (s, e, false)
  let (s, after, overflowed) ← digits (← budget) significand 0
  if overflowed then
    let rec skip : Nat → ReadM Unit
      | 0 => pure ()
      | fuel + 1 => do if isDigit (← peekOrZero) then eat; skip fuel
    skip (← budget)
    let exponent := before + after
    match ← peekOrZero with
    | 101 | 69 => exponentPart positive s exponent
    | _ => float positive s exponent
  else
    if after == 0 then
      match ← peek? with
      | some _ => failAhead .invalidNumber
      | none => failAhead .eofWhileParsingValue
    let exponent := before + after
    match ← peekOrZero with
    | 101 | 69 => exponentPart positive s exponent
    | _ => float positive s exponent

/-- What follows an integer part: a fraction, an exponent, or nothing. -/
def numberTail (positive : Bool) (significand : Nat) : ReadM Number := do
  match ← peekOrZero with
  | 46 => pure (.float (← fractionPart positive significand 0))
  | 101 | 69 => pure (.float (← exponentPart positive significand 0))
  | _ =>
    if positive then pure (.nat significand)
    else if significand == 0 || significand > Nat.pow 2 63 then
      pure (.float (-(Float.ofNat significand)))
    else pure (.neg (-(significand : Int)))

/-- After an integer part that no longer fits 64 bits: further digits raise the exponent. -/
def longInteger (positive : Bool) (significand : Nat) : ReadM Float := do
  let rec go : Nat → Int → ReadM Float
    | 0, e => float positive significand e
    | fuel + 1, e => do
      match ← peekOrZero with
      | 46 => fractionPart positive significand e
      | 101 | 69 => exponentPart positive significand e
      | b => if isDigit b then eat; go fuel (e + 1) else float positive significand e
  go (← budget) 0

/-- Reads a number whose sign, if any, has been read. -/
def number (positive : Bool) : ReadM Number := do
  match ← next? with
  | none => failHere .eofWhileParsingValue
  | some 48 =>
    if isDigit (← peekOrZero) then failAhead .invalidNumber
    numberTail positive 0
  | some c =>
    if !isDigit c then failHere .invalidNumber
    let rec go : Nat → Nat → ReadM Number
      | 0, s => numberTail positive s
      | fuel + 1, s => do
        let b ← peekOrZero
        if isDigit b then
          if s * 10 + digitOf b ≥ Nat.pow 2 64 then pure (.float (← longInteger positive s))
          else eat; go fuel (s * 10 + digitOf b)
        else numberTail positive s
    go (← budget) (digitOf c)

/-- Reads four hex digits of an escape. -/
def hexEscape : ReadM Nat := do
  let bytes ← read
  let i ← get
  if i + 4 ≤ bytes.size then
    set (i + 4)
    let hexVal := fun (b : UInt8) =>
      if 48 ≤ b && b ≤ 57 then some (b.toNat - 48)
      else if 97 ≤ b && b ≤ 102 then some (b.toNat - 87)
      else if 65 ≤ b && b ≤ 70 then some (b.toNat - 55)
      else none
    match hexVal (bytes.get! i), hexVal (bytes.get! (i + 1)), hexVal (bytes.get! (i + 2)),
        hexVal (bytes.get! (i + 3)) with
    | some a, some b, some c, some d => pure (((a * 16 + b) * 16 + c) * 16 + d)
    | _, _, _, _ => failHere .invalidEscape
  else
    set bytes.size
    failHere .eofWhileParsingString

/-- The next byte, which must exist inside a string. -/
def peekInString : ReadM UInt8 := do
  match ← peek? with
  | some b => pure b
  | none => failHere .eofWhileParsingString

/-- Reads an escape after its backslash and appends what it stands for to `buf`. -/
def escape (buf : ByteArray) : ReadM ByteArray := do
  let some ch ← next? | failHere .eofWhileParsingString
  match ch with
  | 34 => pure (buf.push 34)
  | 92 => pure (buf.push 92)
  | 47 => pure (buf.push 47)
  | 98 => pure (buf.push 8)
  | 102 => pure (buf.push 12)
  | 110 => pure (buf.push 10)
  | 114 => pure (buf.push 13)
  | 116 => pure (buf.push 9)
  | 117 =>
    let n ← hexEscape
    let code ←
      if 0xDC00 ≤ n && n ≤ 0xDFFF then failHere .loneLeadingSurrogateInHexEscape
      else if 0xD800 ≤ n && n ≤ 0xDBFF then do
        if (← peekInString) == 92 then eat else do eat; failHere .unexpectedEndOfHexEscape
        if (← peekInString) == 117 then eat else do eat; failHere .unexpectedEndOfHexEscape
        let n2 ← hexEscape
        if n2 < 0xDC00 || n2 > 0xDFFF then failHere .loneLeadingSurrogateInHexEscape
        pure (((n - 0xD800) * 1024 + (n2 - 0xDC00)) + 0x10000)
      else pure n
    pure (buf.append (String.singleton (Char.ofNat code)).toUTF8)
  | _ => failHere .invalidEscape

/-- Reads the rest of a string after its opening quote. -/
def stringBody : ReadM String := do
  let rec go : Nat → ByteArray → ReadM ByteArray
    | 0, buf => pure buf
    | fuel + 1, buf => do
      match ← peek? with
      | none => failHere .eofWhileParsingString
      | some 34 => do eat; pure buf
      | some 92 => do eat; go fuel (← escape buf)
      | some b =>
        if b < 32 then do eat; failHere .controlCharacterWhileParsingString
        else do eat; go fuel (buf.push b)
  let buf ← go (← budget) ByteArray.empty
  pure ((String.fromUTF8? buf).getD "")

/-- Skips the rest of a string after its opening quote, checking escapes but not decoding them. -/
def skipStringBody : ReadM Unit := do
  let rec go : Nat → ReadM Unit
    | 0 => pure ()
    | fuel + 1 => do
      match ← peek? with
      | none => failHere .eofWhileParsingString
      | some 34 => eat
      | some 92 => do
        eat
        match ← next? with
        | none => failHere .eofWhileParsingString
        | some c =>
          if c == 34 || c == 92 || c == 47 || c == 98 || c == 102 || c == 110 || c == 114 ||
              c == 116 then go fuel
          else if c == 117 then do let _ ← hexEscape; go fuel
          else failHere .invalidEscape
      | some b => if b < 32 then failHere .controlCharacterWhileParsingString else do eat; go fuel
  go (← budget)

/-- Skips the digits of a number whose sign, if any, has been read, checking only its form. -/
def skipNumber : ReadM Unit := do
  let skipDigits : ReadM Unit := do
    let rec go : Nat → ReadM Unit
      | 0 => pure ()
      | fuel + 1 => do if isDigit (← peekOrZero) then eat; go fuel
    go (← budget)
  let exponent : ReadM Unit := do
    eat
    let b ← peekOrZero
    if b == 43 || b == 45 then eat
    let c ← peekOrZero
    eat
    if !isDigit c then failHere .invalidNumber
    skipDigits
  let c ← peekOrZero
  eat
  if c == 48 then
    if isDigit (← peekOrZero) then failAhead .invalidNumber
  else if isDigit c then skipDigits
  else failHere .invalidNumber
  match ← peekOrZero with
  | 46 =>
    eat
    if !isDigit (← peekOrZero) then failAhead .invalidNumber
    skipDigits
    let e ← peekOrZero
    if e == 101 || e == 69 then exponent
  | 101 | 69 => exponent
  | _ => pure ()

/-- Skips one value, checking its form but building nothing. Nesting is not limited here. -/
def skipValue : ReadM Unit := do
  -- `frames` holds the open containers, innermost first: `true` for an object.
  let rec go : Nat → List Bool → ReadM Unit
    | 0, _ => pure ()
    | fuel + 1, frames => do
      let some peek ← skipBlanks | failAhead .eofWhileParsingValue
      let opened : Option Bool ← match peek with
        | 110 => do eat; keyword [117, 108, 108]; pure none
        | 116 => do eat; keyword [114, 117, 101]; pure none
        | 102 => do eat; keyword [97, 108, 115, 101]; pure none
        | 45 => do eat; skipNumber; pure none
        | 34 => do eat; skipStringBody; pure none
        | 91 => do eat; pure (some false)
        | 123 => do eat; pure (some true)
        | b => if isDigit b then do skipNumber; pure none else failAhead .expectedSomeValue
      -- after a value, close containers until one expects another item
      let rec close : Nat → List Bool → Bool → ReadM (Option (List Bool))
        | 0, fs, _ => pure (some fs)
        | fuel + 1, fs, acceptComma =>
          match fs with
          | [] => pure none
          | isObject :: outer => do
            match ← skipBlanks with
            | some 44 => if acceptComma then do eat; pure (some fs) else pure (some fs)
            | some 93 =>
              if !isObject then do eat; close fuel outer true
              else if acceptComma then failAhead .expectedObjectCommaOrEnd else pure (some fs)
            | some 125 =>
              if isObject then do eat; close fuel outer true
              else if acceptComma then failAhead .expectedListCommaOrEnd else pure (some fs)
            | some _ =>
              if acceptComma then
                failAhead (if isObject then .expectedObjectCommaOrEnd else .expectedListCommaOrEnd)
              else pure (some fs)
            | none =>
              failAhead (if isObject then .eofWhileParsingObject else .eofWhileParsingList)
      let next ← match opened with
        | some isObject => close (← budget) (isObject :: frames) false
        | none => close (← budget) frames true
      match next with
      | none => pure ()
      | some [] => pure ()
      | some fs@(isObject :: _) =>
        if isObject then
          match ← skipBlanks with
          | some 34 => eat
          | some _ => failAhead .keyMustBeAString
          | none => failAhead .eofWhileParsingObject
          skipStringBody
          match ← skipBlanks with
          | some 58 => eat
          | some _ => failAhead .expectedColon
          | none => failAhead .eofWhileParsingObject
        go fuel fs
  go (← budget) []

/-- Looks at the start of the next array element: `none` at the closing bracket (not read). -/
def nextElement? (first : Bool) : ReadM Bool := do
  let peek ← match ← skipBlanks with
    | some 93 => return false
    | some 44 => if first then pure (some 44) else do eat; skipBlanks
    | some b => if first then pure (some b) else failAhead .expectedListCommaOrEnd
    | none => failAhead .eofWhileParsingList
  match peek with
  | some 93 => failAhead .trailingComma
  | some _ => pure true
  | none => failAhead .eofWhileParsingValue

/-- Reads the next object key, or `none` at the closing brace (not read). -/
def nextKey? (first : Bool) : ReadM (Option String) := do
  let peek ← match ← skipBlanks with
    | some 125 => return none
    | some 44 => if first then pure (some 44) else do eat; skipBlanks
    | some b => if first then pure (some b) else failAhead .expectedObjectCommaOrEnd
    | none => failAhead .eofWhileParsingObject
  match peek with
  | some 34 => do eat; pure (some (← stringBody))
  | some 125 => failAhead .trailingComma
  | some _ => failAhead .keyMustBeAString
  | none => failAhead .eofWhileParsingValue

/-- Reads the colon after an object key. -/
def colon : ReadM Unit := do
  match ← skipBlanks with
  | some 58 => eat
  | some _ => failAhead .expectedColon
  | none => failAhead .eofWhileParsingObject

/-- Reads the end of an array. -/
def endArray : ReadM Unit := do
  match ← skipBlanks with
  | some 93 => eat
  | some 44 => do
    eat
    match ← attempt skipBlanks with
    | .ok (some 93) => failAhead .trailingComma
    | _ => failAhead .trailingCharacters
  | some _ => failAhead .trailingCharacters
  | none => failAhead .eofWhileParsingList

/-- Reads the end of an object. -/
def endObject : ReadM Unit := do
  match ← skipBlanks with
  | some 125 => eat
  | some 44 => failAhead .trailingComma
  | some _ => failAhead .trailingCharacters
  | none => failAhead .eofWhileParsingObject

/-- Opens one more array or object, `depth` being how many more may be opened. -/
def openNested (depth : Nat) : ReadM Nat := do
  if depth ≤ 1 then failAhead .recursionLimitExceeded
  eat
  pure (depth - 1)

/-- The error for the value ahead when a typed reader expected something else; the value is read
as far as its kind shows. -/
def unexpectedAhead (expected : String) : ReadM Error := do
  let found ← attempt (do
    match ← peekOrZero with
    | 110 => do eat; keyword [117, 108, 108]; pure (some Unexpected.null)
    | 116 => do eat; keyword [114, 117, 101]; pure (some (Unexpected.bool true))
    | 102 => do eat; keyword [97, 108, 115, 101]; pure (some (Unexpected.bool false))
    | 45 => do eat; pure (some (Unexpected.number (← number false)))
    | 34 => do eat; pure (some (Unexpected.str (← stringBody)))
    | 91 => pure (some Unexpected.seq)
    | 123 => pure (some Unexpected.map)
    | b => if isDigit b then pure (some (Unexpected.number (← number true))) else pure none)
  match found with
  | .error e => pure e
  | .ok (some u) => place (Error.invalidType u expected)
  | .ok none => errorAhead .expectedSomeValue

/-- Reads a number for a float field. -/
def floatValue : ReadM Float := placing do
  match ← skipBlanks with
  | none => failAhead .eofWhileParsingValue
  | some 45 => do eat; pure (← number false).toFloat
  | some b =>
    if isDigit b then pure (← number true).toFloat
    else throw (← unexpectedAhead "f64")

/-- Reads a string for a field that expects the kind of value named by `expected`. -/
def stringValue (expected : String) : ReadM String := placing do
  match ← skipBlanks with
  | none => failAhead .eofWhileParsingValue
  | some 34 => do eat; stringBody
  | some _ => throw (← unexpectedAhead expected)

mutual

/-- Reads a value with at most `depth - 1` more levels of nesting. -/
def value : Nat → Nat → ReadM Value
  | 0, _ => failAhead .recursionLimitExceeded
  | fuel + 1, depth => placing do
    match ← skipBlanks with
    | none => failAhead .eofWhileParsingValue
    | some 110 => do eat; keyword [117, 108, 108]; pure .null
    | some 116 => do eat; keyword [114, 117, 101]; pure (.bool true)
    | some 102 => do eat; keyword [97, 108, 115, 101]; pure (.bool false)
    | some 45 => do eat; pure (.number (← number false))
    | some 34 => do eat; pure (.string (← stringBody))
    | some 91 => do
      let inner ← openNested depth
      let ret ← attempt (items fuel inner true [])
      let close ← attempt endArray
      pure (.array (← firstError ret close))
    | some 123 => do
      let inner ← openNested depth
      let ret ← attempt (fields fuel inner true [])
      let close ← attempt endObject
      pure (.object (← firstError ret close))
    | some b =>
      if isDigit b then pure (.number (← number true)) else failAhead .expectedSomeValue

/-- Reads array elements up to the closing bracket (not read). -/
def items : Nat → Nat → Bool → List Value → ReadM (List Value)
  | 0, _, _, acc => pure acc.reverse
  | fuel + 1, depth, first, acc => do
    if ← nextElement? first then
      let v ← value fuel depth
      items fuel depth false (v :: acc)
    else pure acc.reverse

/-- Reads object fields up to the closing brace (not read); a repeated key replaces the value in
place. -/
def fields : Nat → Nat → Bool → List (String × Value) → ReadM (List (String × Value))
  | 0, _, _, acc => pure acc
  | fuel + 1, depth, first, acc => do
    match ← nextKey? first with
    | none => pure acc
    | some key =>
      colon
      let v ← value fuel depth
      fields fuel depth false (setField acc key v)

end

/-- The nesting a reader starts with: 127 containers may be open at once. -/
def topDepth : Nat := 128

/-- Runs a reader on the whole text: nothing but blanks may follow what it reads. -/
def run (x : ReadM α) (text : String) : Except Error α :=
  let whole : ReadM α := do
    let a ← x
    match ← skipBlanks with
    | some _ => failAhead .trailingCharacters
    | none => pure a
  match (whole.run text.toUTF8).run 0 with
  | .ok a _ => .ok a
  | .error e _ => .error e

end Reader

/-- Reads a JSON text into a value. -/
def parse (text : String) : Except Error Value :=
  Reader.run (do Reader.value (← Reader.budget) Reader.topDepth) text

end CpuBench.Json
