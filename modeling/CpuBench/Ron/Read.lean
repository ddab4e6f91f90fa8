import CpuBench.Ron.Value
import CpuBench.Decimal.Reading

/-!
# Reading RON text

The reader works on the UTF-8 bytes of the text and keeps its place as a line and a byte
column, both from 1. Blanks (space, tab, line feed, carriage return), line comments `//` and
nested block comments `/* */` may stand between tokens. Attributes `#![enable(...)]` may open
the text.

A value is read by its first characters:

* `true`, `false`, `None`, `Some(…)`, `()`, `inf`, `-inf` and `NaN` by their words;
* a name: a struct of named fields `Name(a: 1)`, a tuple `Name(1, 2)`, or a bare name, the unit;
* `(` likewise without the name; `[` a sequence, `{` a map;
* a digit or sign a number: a float when float characters run further than integer characters,
  otherwise an integer (with `0x`, `0o` and `0b` bases and `_` separators) that falls back to a
  float when it does not fit;
* `"` and `r` a string (escaped or raw), `'` a character.

Items of collections are separated by commas, a trailing comma allowed. At most 128 collections,
options and items may nest. Text after the value, blanks and comments aside, is an error.
-/

namespace CpuBench.Ron

/-- Where the reader stands: the bytes left, and the line and column of the first of them. -/
structure Cursor where
  bytes : List UInt8
  line : Nat := 1
  col : Nat := 1

/-- A step of the reader. -/
abbrev ReadM := StateT Cursor (Except SpannedError)

/-- The byte of an ASCII character. -/
def byte (c : Char) : UInt8 := c.toNat.toUInt8

/-- Whether `b` is an ASCII letter. -/
def isAlpha (b : UInt8) : Bool := (65 ≤ b && b ≤ 90) || (97 ≤ b && b ≤ 122)

/-- Whether `b` is an ASCII digit. -/
def isDigit (b : UInt8) : Bool := 48 ≤ b && b ≤ 57

/-- Whether `b` is a hexadecimal digit. -/
def isHex (b : UInt8) : Bool := isDigit b || (65 ≤ b && b ≤ 70) || (97 ≤ b && b ≤ 102)

/-- The value of a hexadecimal digit. -/
def hexValue (b : UInt8) : Nat :=
  if isDigit b then b.toNat - 48 else if b ≤ 70 then b.toNat - 55 else b.toNat - 87

/-- Whether `b` may start a name. -/
def isIdentFirst (b : UInt8) : Bool := isAlpha b || b == byte '_'

/-- Whether `b` may continue a name. -/
def isIdentOther (b : UInt8) : Bool := isAlpha b || isDigit b || b == byte '_'

/-- Whether `b` may continue a raw name `r#…`. -/
def isIdentRaw (b : UInt8) : Bool :=
  isIdentOther b || b == byte '.' || b == byte '+' || b == byte '-'

/-- Whether `b` may stand in an integer. -/
def isIntChar (b : UInt8) : Bool := isHex b || b == byte '_'

/-- Whether `b` may stand in a float. -/
def isFloatChar (b : UInt8) : Bool :=
  isDigit b || b == byte 'e' || b == byte 'E' || b == byte '.' || b == byte '+' ||
    b == byte '-' || b == byte '_'

/-- Whether `b` is a blank. -/
def isBlank (b : UInt8) : Bool :=
  b == byte ' ' || b == byte '\t' || b == byte '\n' || b == byte '\r'

/-- Whether `b` continues a UTF-8 sequence. -/
def isContinuation (b : UInt8) : Bool := 0x80 ≤ b && b ≤ 0xBF

/-- Where UTF-8 decoding of `bs` fails: the bytes before the bad sequence, and its length, none
when the text ends inside it. `offset` counts the bytes already checked. -/
def utf8Fault : Nat → List UInt8 → Option (Nat × Option Nat)
  | _, [] => none
  | offset, b :: rest =>
    if b < 0x80 then utf8Fault (offset + 1) rest
    else
      let (width, lo, hi) : Nat × UInt8 × UInt8 :=
        if 0xC2 ≤ b && b ≤ 0xDF then (2, 0x80, 0xBF)
        else if b == 0xE0 then (3, 0xA0, 0xBF)
        else if b == 0xED then (3, 0x80, 0x9F)
        else if 0xE1 ≤ b && b ≤ 0xEF then (3, 0x80, 0xBF)
        else if b == 0xF0 then (4, 0x90, 0xBF)
        else if b == 0xF4 then (4, 0x80, 0x8F)
        else if 0xF1 ≤ b && b ≤ 0xF3 then (4, 0x80, 0xBF)
        else (0, 0, 0)
      if width == 0 then some (offset, some 1)
      else match rest with
        | [] => some (offset, none)
        | c1 :: rest1 =>
          if !(lo ≤ c1 && c1 ≤ hi) then some (offset, some 1)
          else if width == 2 then utf8Fault (offset + 2) rest1
          else match rest1 with
            | [] => some (offset, none)
            | c2 :: rest2 =>
              if !isContinuation c2 then some (offset, some 2)
              else if width == 3 then utf8Fault (offset + 3) rest2
              else match rest2 with
                | [] => some (offset, none)
                | c3 :: rest3 =>
                  if !isContinuation c3 then some (offset, some 3)
                  else utf8Fault (offset + 4) rest3

/-- The text of UTF-8 bytes, or where decoding fails. -/
def decodeUtf8 (bs : List UInt8) : Except ErrorCode String :=
  match String.fromUTF8? (ByteArray.mk bs.toArray) with
  | some s => .ok s
  | none =>
    match utf8Fault 0 bs with
    | some (at_, len) => .error (.invalidUtf8 at_ len)
    | none => .error (.invalidUtf8 0 none)

/-- The text of ASCII bytes. -/
def asciiText (bs : List UInt8) : String :=
  String.ofList (bs.map fun b => Char.ofNat b.toNat)

namespace ReadM

/-- Stops with `code` at the current place. -/
def fail (code : ErrorCode) : ReadM α := do
  let c ← get
  throw ⟨c.line, c.col, code⟩

/-- Stops with the error of a failed decoding. -/
def liftCode (x : Except ErrorCode α) : ReadM α :=
  match x with
  | .ok a => pure a
  | .error e => fail e

/-- The byte ahead, if any. -/
def peek : ReadM (Option UInt8) := do
  pure (← get).bytes.head?

/-- The byte ahead; the end of the text is an error. -/
def peekOrEof : ReadM UInt8 := do
  match (← get).bytes with
  | b :: _ => pure b
  | [] => fail .eof

/-- Moves past one byte. -/
def advanceOne : ReadM Unit :=
  modify fun c => match c.bytes with
    | [] => c
    | b :: rest =>
      if b == byte '\n' then ⟨rest, c.line + 1, 1⟩ else ⟨rest, c.line, c.col + 1⟩

/-- Moves past `n` bytes. -/
def advance : Nat → ReadM Unit
  | 0 => pure ()
  | n + 1 => do advanceOne; advance n

/-- Takes the byte ahead; the end of the text is an error. -/
def eatByte : ReadM UInt8 := do
  let b ← peekOrEof
  advanceOne
  pure b

/-- Takes the byte ahead, which must be `b`; another byte is the error `code`. -/
def expectByte (b : UInt8) (code : ErrorCode) : ReadM Unit := do
  if (← eatByte) != b then fail code

/-- Moves past `s` when the text continues with it. -/
def consume (s : String) : ReadM Bool := do
  let p := s.toUTF8.toList
  if p.isPrefixOf (← get).bytes then
    advance p.length
    pure true
  else pure false

/-- Whether the text continues with the word `s` and no further name character. -/
def checkIdent (s : String) : ReadM Bool := do
  let p := s.toUTF8.toList
  let bs := (← get).bytes
  pure (p.isPrefixOf bs && !(((bs.drop p.length).head?.map isIdentOther).getD false))

/-- Moves past the word `s` when it stands ahead. -/
def consumeIdent (s : String) : ReadM Bool := do
  if ← checkIdent s then
    advance s.utf8ByteSize
    pure true
  else pure false

/-- The number of bytes ahead for which `p` holds. -/
def countWhile (p : UInt8 → Bool) : ReadM Nat := do
  pure ((← get).bytes.takeWhile p).length

/-- The number of bytes left, a bound for every loop over them. -/
def fuel : ReadM Nat := do
  pure ((← get).bytes.length + 2)

/-- Skips the inside of a block comment, `level` comments deep. -/
def blockComment : Nat → Nat → ReadM Unit
  | _, 0 => pure ()
  | 0, _ => pure ()
  | level + 1, fuel + 1 => do
    let n ← countWhile fun b => b != byte '/' && b != byte '*'
    if (← get).bytes.isEmpty then fail .unclosedBlockComment
    advance n
    if ← consume "/*" then blockComment (level + 2) fuel
    else if ← consume "*/" then blockComment level fuel
    else if (← get).bytes.isEmpty then fail .unclosedBlockComment
    else
      advanceOne
      blockComment (level + 1) fuel

/-- Skips a comment when one starts here. -/
def comment : ReadM Bool := do
  if ← consume "/" then
    let b ← eatByte
    if b == byte '/' then advance (← countWhile (· != byte '\n'))
    else if b == byte '*' then blockComment 1 (← fuel)
    else fail (.unexpectedByte (Char.ofNat b.toNat))
    pure true
  else pure false

/-- Skips blanks and comments. -/
def skipWs : Nat → ReadM Unit
  | 0 => pure ()
  | n + 1 => do
    advance (← countWhile isBlank)
    if ← comment then skipWs n

/-- Skips blanks and comments. -/
def ws : ReadM Unit := do skipWs (← fuel)

/-- Skips a comma and the blanks around it; answers whether there was one. -/
def comma : ReadM Bool := do
  ws
  if ← consume "," then
    ws
    pure true
  else pure false

/-- Reads a name: a letter or `_` followed by letters, digits and `_`, or `r#` followed by those
and `.`, `+`, `-`. -/
def identifier : ReadM String := do
  match (← get).bytes with
  | [] => fail .eof
  | b :: rest =>
    if !isIdentFirst b then fail .expectedIdentifier
    let plain : ReadM String := do
      let n ← countWhile isIdentOther
      let name := asciiText ((← get).bytes.take n)
      advance n
      pure name
    if b == byte 'r' then
      match rest with
      | [] => fail .eof
      | b2 :: rest2 =>
        if b2 == byte '"' then fail .expectedIdentifier
        else if b2 == byte '#' then
          if !isIdentRaw (rest2.headD 0) then fail .expectedIdentifier
          advance 2
          let n ← countWhile isIdentRaw
          let name := asciiText ((← get).bytes.take n)
          advance n
          pure name
        else plain
    else plain

/-- Reads the attributes that may open the text. -/
def attributes : Nat → ReadM Unit
  | 0 => pure ()
  | n + 1 => do
    if (← peek) != some (byte '#') then return
    let mut all := true
    for part in ["#", "!", "[", "enable", "("] do
      ws
      let ok ← consume part
      all := all && ok
    if !all then fail .expectedAttribute
    ws
    names n
    ws
    let mut closed := true
    for part in [")", "]"] do
      ws
      let ok ← consume part
      closed := closed && ok
    if !closed then fail .expectedAttributeEnd
    ws
    attributes n
where
  names : Nat → ReadM Unit
    | 0 => pure ()
    | k + 1 => do
      let name ← identifier
      if !(["unwrap_newtypes", "implicit_some", "unwrap_variant_newtypes"].contains name) then
        fail (.noSuchExtension name)
      let hadComma ← comma
      let more := ((← peek).map isIdentOther).getD false
      if !hadComma && more then fail .expectedComma
      if hadComma && more then names k

/-- Reads the hexadecimal digit `b` already taken. -/
def hexDigit (b : UInt8) : ReadM Nat :=
  if isHex b then pure (hexValue b) else fail (.invalidEscape "Non-hex digit found")

/-- Reads up to six hexadecimal digits of a Unicode escape, up to the closing brace. -/
def unicodeDigits : Nat → Nat → Nat → ReadM (Nat × Nat)
  | 0, value, count => pure (value, count)
  | k + 1, value, count => do
    let b ← peekOrEof
    if b == byte '}' then return (value, count)
    advanceOne
    let d ← hexDigit b
    unicodeDigits k (value * 16 + d) (count + 1)

/-- Reads an escape after its backslash, as the character it stands for. Two hexadecimal digits
after `x` stand for the character with that code, below 256. -/
def escape : ReadM Char := do
  let b ← eatByte
  if b == byte '\'' || b == byte '"' || b == byte '\\' then pure (Char.ofNat b.toNat)
  else if b == byte 'n' then pure '\n'
  else if b == byte 'r' then pure '\r'
  else if b == byte 't' then pure '\t'
  else if b == byte '0' then pure '\x00'
  else if b == byte 'x' then
    let hi ← hexDigit (← eatByte)
    let lo ← hexDigit (← eatByte)
    pure (Char.ofNat (hi * 16 + lo))
  else if b == byte 'u' then
    expectByte (byte '{') (.invalidEscape "Missing \x7b in Unicode escape")
    let (value, count) ← unicodeDigits 6 0 0
    if count == 0 then
      fail (.invalidEscape "Expected 1-6 digits, got 0 digits in Unicode escape")
    expectByte (byte '}') (.invalidEscape "No \x7d at the end of Unicode escape")
    if value < 0xD800 || (0xE000 ≤ value && value < 0x110000) then pure (Char.ofNat value)
    else fail (.invalidEscape "Not a valid char")
  else fail (.invalidEscape "Unknown escape character")

/-- The UTF-8 bytes of a character. -/
def utf8Bytes (c : Char) : List UInt8 := (String.singleton c).toUTF8.toList

/-- Reads the rest of a string with escapes after its opening quote, `acc` holding the bytes so
far. -/
def escapedString : Nat → List UInt8 → ReadM String
  | 0, acc => liftCode (decodeUtf8 acc)
  | n + 1, acc => do
    let bs := (← get).bytes
    match bs.findIdx? fun b => b == byte '\\' || b == byte '"' with
    | none => fail .expectedStringEnd
    | some i =>
      let acc := acc ++ bs.take i
      advance (i + 1)
      if bs.getD i 0 == byte '"' then liftCode (decodeUtf8 acc)
      else escapedString n (acc ++ utf8Bytes (← escape))

/-- Reads a string after its opening quote. -/
def quotedString : ReadM String := do
  let bs := (← get).bytes
  match bs.findIdx? fun b => b == byte '\\' || b == byte '"' with
  | none => fail .expectedStringEnd
  | some i =>
    if bs.getD i 0 == byte '"' then
      let s ← liftCode (decodeUtf8 (bs.take i))
      advance (i + 1)
      pure s
    else
      advance (i + 1)
      let e ← escape
      escapedString (← fuel) (bs.take i ++ utf8Bytes e)

/-- The first place where `ending` starts in `bs`. -/
def findEnding (ending : List UInt8) : Nat → List UInt8 → Option Nat
  | _, [] => none
  | i, b :: rest => if ending.isPrefixOf (b :: rest) then some i else findEnding ending (i + 1) rest

/-- Reads a raw string after its `r`: hashes, a quote, the text, a quote and as many hashes. -/
def rawString : ReadM String := do
  let n ← countWhile (· == byte '#')
  advance n
  expectByte (byte '"') .expectedString
  let ending := byte '"' :: List.replicate n (byte '#')
  let bs := (← get).bytes
  match findEnding ending 0 bs with
  | none => fail .expectedStringEnd
  | some i =>
    let s ← liftCode (decodeUtf8 (bs.take i))
    advance (i + n + 1)
    pure s

/-- Reads a string, escaped or raw. -/
def string : ReadM String := do
  if ← consume "\"" then quotedString
  else if ← consume "r" then rawString
  else fail .expectedString

/-- Reads a character literal. -/
def char : ReadM Char := do
  if !(← consume "'") then fail .expectedChar
  let b ← peekOrEof
  let c ← if b == byte '\\' then do
      advanceOne
      escape
    else do
      let bs := (← get).bytes
      match (bs.take 5).findIdx? (· == byte '\'') with
      | none => fail .expectedChar
      | some pos =>
        let s ← liftCode (decodeUtf8 (bs.take pos))
        match s.toList with
        | [c] => do advance pos; pure c
        | _ => fail .expectedChar
  if !(← consume "'") then fail .expectedChar
  pure c

/-- Reads a float: one of the words `inf`, `NaN` with an optional sign, or float characters. -/
def float : ReadM Float := do
  for (word, x) in [("inf", 1 / 0), ("+inf", 1 / 0), ("-inf", -1 / 0), ("NaN", 0 / 0),
      ("+NaN", 0 / 0), ("-NaN", 0 / 0)] do
    if ← consumeIdent word then return x
  let n ← countWhile isFloatChar
  let span := (← get).bytes.take n
  match span.findIdx? (· == byte '_') with
  | some k => do advance k; fail .floatUnderscore
  | none =>
    advance n
    match Decimal.floatOfText? (asciiText span) with
    | some x => pure x
    | none => fail .expectedFloat

/-- Reads an integer: a sign when `signed`, a base prefix, then digits and `_`. It must fit 64
bits, signed or unsigned as asked. A failure is the outcome rather than an error of the reader,
which stands past the sign, the prefix and (once the digits were counted) the digits. -/
def integer (signed : Bool) : ReadM (Except ErrorCode Int) := do
  let negative ← if signed then do
      let b ← peekOrEof
      if b == byte '+' then do advanceOne; pure false
      else if b == byte '-' then do advanceOne; pure true
      else pure false
    else pure false
  let bs := (← get).bytes
  let base : Nat := match bs with
    | 48 :: 120 :: _ => 16
    | 48 :: 98 :: _ => 2
    | 48 :: 111 :: _ => 8
    | _ => 10
  if base != 10 then advance 2
  let n ← countWhile isIntChar
  if n == 0 then return .error .expectedInteger
  let span := (← get).bytes.take n
  if span.headD 0 == byte '_' then return .error .underscoreAtBeginning
  let (lo, hi) : Int × Int :=
    if signed then (-(Nat.pow 2 63 : Int), (Nat.pow 2 63 : Int) - 1)
    else (0, (Nat.pow 2 64 : Int) - 1)
  let step := fun (acc : Int) (b : UInt8) =>
    if b == byte '_' then Except.ok acc
    else if acc * base < lo || acc * base > hi then .error ErrorCode.integerOutOfBounds
    else if hexValue b ≥ base then .error .expectedInteger
    else
      let next := if negative then acc * base - hexValue b else acc * base + hexValue b
      if next < lo || next > hi then .error .integerOutOfBounds else .ok next
  let result : Except ErrorCode Int := span.foldlM step 0
  advance n
  pure result

/-- Whether float characters run further ahead than integer characters. -/
def nextIsFloat : ReadM Bool := do
  let bs := (← get).bytes
  let bs := match bs with
    | b :: rest => if b == byte '+' || b == byte '-' then rest else bs
    | [] => []
  pure ((bs.takeWhile isFloatChar).length > (bs.takeWhile isIntChar).length)

/-- Reads a number: an integer when it reads as one, a float otherwise. An unsigned integer
beyond the signed range becomes a float. When the integer fails, the same bytes are read again
as a float, but the line and column stay where the integer left them: places reported later
count the bytes the integer read twice. -/
def number : ReadM Value := do
  let first ← peekOrEof
  if ← nextIsFloat then return .float (← float)
  let signed := first == byte '+' || first == byte '-'
  let before := (← get).bytes
  match ← integer signed with
  | .ok i =>
    pure (if i < (Nat.pow 2 63 : Int) then .integer i
      else .float (Decimal.nearestFloat i.toNat))
  | .error _ =>
    modify fun c => { c with bytes := before }
    pure (.float (← float))

/-- Whether a parenthesised item holds a tuple: it does unless a name and a colon open it. -/
def tupleAhead : ReadM Bool := do
  let named ← tryCatch (do let _ ← identifier; pure true) fun _ => pure false
  if !named then return true
  ws
  pure ((← eatByte) != byte ':')

/-- Enters one more level of nesting, of which at most 128 are allowed. -/
def guard (depth : Nat) : ReadM Nat :=
  if depth ≥ 128 then fail .exceededRecursionLimit else pure (depth + 1)

/-- Whether another item follows in a list closed by `term`, given whether a comma came last. -/
def hasItem (term : UInt8) (hadComma : Bool) : ReadM Bool := do
  ws
  let b ← peekOrEof
  if hadComma then pure (b != term)
  else if b == term then pure false
  else fail .expectedComma

mutual

/-- Reads a value, `depth` levels deep. -/
def value : Nat → Nat → ReadM Value
  | 0, _ => fail .eof
  | fuel + 1, depth => do
    if ← consumeIdent "true" then return .bool true
    if ← consumeIdent "false" then return .bool false
    if ← checkIdent "Some" then return ← option fuel depth
    if ← consumeIdent "None" then return .option none
    if ← consume "()" then return .unit
    if ← consumeIdent "inf" then return .float (1 / 0)
    if ← consumeIdent "-inf" then return .float (-1 / 0)
    if ← consumeIdent "NaN" then return .float (0 / 0)
    let named ← tryCatch (do let _ ← identifier; pure true) fun _ => pure false
    if named then
      ws
      return ← anyStruct fuel depth
    let b ← peekOrEof
    if b == byte '(' then anyStruct fuel depth
    else if b == byte '[' then sequence fuel depth
    else if b == byte '{' then map fuel depth
    else if isDigit b || b == byte '+' || b == byte '-' then number
    else if b == byte '.' then pure (.float (← float))
    else if b == byte '"' || b == byte 'r' then pure (.string (← string))
    else if b == byte '\'' then pure (.char (← char))
    else fail (.unexpectedByte (Char.ofNat b.toNat))

/-- Reads `Some(value)`. -/
def option : Nat → Nat → ReadM Value
  | 0, _ => fail .eof
  | fuel + 1, depth => do
    if ← consume "None" then return .option none
    if ← consume "Some" then
      ws
      if ← consume "(" then
        ws
        let v ← value fuel (← guard depth)
        let _ ← comma
        if ← consume ")" then return .option (some v)
        fail .expectedOptionEnd
    fail .expectedOption

/-- Reads what follows an optional name: a tuple or struct in parentheses, or nothing, the
unit. A fault while looking ahead is reported where the parenthesis stands. -/
def anyStruct : Nat → Nat → ReadM Value
  | 0, _ => fail .eof
  | fuel + 1, depth => do
    let saved ← get
    if ← consume "(" then
      let tuple ← tryCatch (do ws; tupleAhead) fun e =>
        throw { e with line := saved.line, col := saved.col }
      set saved
      if tuple then
        let _ ← consume "("
        let items ← items (byte ')') fuel (← guard depth) true []
        let _ ← comma
        if ← consume ")" then pure (.seq items) else fail .expectedArrayEnd
      else
        let _ ← consume "("
        let entries ← fields fuel (← guard depth) true []
        ws
        if ← consume ")" then pure (.map entries) else fail .expectedStructLikeEnd
    else pure .unit

/-- Reads `[items]`. -/
def sequence : Nat → Nat → ReadM Value
  | 0, _ => fail .eof
  | fuel + 1, depth => do
    if !(← consume "[") then fail .expectedArray
    let xs ← items (byte ']') fuel (← guard depth) true []
    ws
    if ← consume "]" then pure (.seq xs) else fail .expectedArrayEnd

/-- Reads `{key: value, ...}`. -/
def map : Nat → Nat → ReadM Value
  | 0, _ => fail .eof
  | fuel + 1, depth => do
    if !(← consume "\x7b") then fail .expectedMap
    let entries ← entries fuel (← guard depth) true []
    ws
    if ← consume "\x7d" then pure (.map entries) else fail .expectedMapEnd

/-- Reads the items of a list closed by `term`, separated by commas. -/
def items (term : UInt8) : Nat → Nat → Bool → List Value → ReadM (List Value)
  | 0, _, _, acc => pure acc
  | fuel + 1, depth, hadComma, acc => do
    if !(← hasItem term hadComma) then return acc
    let v ← value fuel (← guard depth)
    let c ← comma
    items term fuel depth c (acc ++ [v])

/-- Reads the named fields of a struct up to its closing parenthesis. -/
def fields : Nat → Nat → Bool → List (Value × Value) → ReadM (List (Value × Value))
  | 0, _, _, acc => pure acc
  | fuel + 1, depth, hadComma, acc => do
    if !(← hasItem (byte ')') hadComma) then return acc
    let _ ← guard depth
    let k ← identifier
    ws
    if !(← consume ":") then fail .expectedMapColon
    ws
    let v ← value fuel (← guard depth)
    let c ← comma
    fields fuel depth c (acc ++ [(.string k, v)])

/-- Reads the entries of a map up to its closing brace. -/
def entries : Nat → Nat → Bool → List (Value × Value) → ReadM (List (Value × Value))
  | 0, _, _, acc => pure acc
  | fuel + 1, depth, hadComma, acc => do
    if !(← hasItem (byte '}') hadComma) then return acc
    let k ← value fuel (← guard depth)
    ws
    if !(← consume ":") then fail .expectedMapColon
    ws
    let v ← value fuel (← guard depth)
    let c ← comma
    entries fuel depth c (acc ++ [(k, v)])

end

end ReadM

/-- The value of a RON text, or the first fault in it. -/
def Value.ofText (text : String) : Except SpannedError Value :=
  let bytes := text.toUTF8.toList
  let read : ReadM Value := do
    ReadM.ws
    ReadM.attributes (← ReadM.fuel)
    let v ← ReadM.value (2 * bytes.length + 8) 0
    ReadM.ws
    if !(← get).bytes.isEmpty then ReadM.fail .trailingCharacters
    pure v
  read.run' { bytes }

end CpuBench.Ron
