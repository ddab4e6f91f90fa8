import CpuBench.Json5.Node
import CpuBench.Decimal.Reading

/-!
# Decoding JSON5 strings and numbers

Strings and names are decoded piece by piece: `\b \f \n \r \t \v` stand for their control
characters, `\0` for the null character, any other one-character escape for the character
itself, `\xHH` for the character with that code, and `\uHHHH` for the character with that
code or, when it is a lead surrogate, together with the trail surrogate after it for a
character beyond the first plane.

A number's text is an integer when it has no point, no exponent (hexadecimal digits apart) and
is not `Infinity`, `-Infinity`, `NaN` or `-NaN` (so a `+` before those makes an integer text
that fails):

* `0x` or `0X` and hexadecimal digits stand for their value when it fits 32 bits, and are an
  error otherwise;
* any other integer text, a sign included, must fit 64 signed bits, so a signed hexadecimal
  text is an error.

Any other number is a float: `Infinity`, `-Infinity`, `NaN` and `-NaN` stand for themselves,
and other text must read as a finite float.
-/

namespace CpuBench.Json5

/-- A JSON5 number: a 64-bit integer or a float. -/
inductive Number where
  | integer (i : Int)
  | float (x : Float)
  deriving Repr

/-- The value of hexadecimal digits when it fits 32 bits. -/
def hexValue (digits : String) : Option Nat :=
  let value (c : Char) : Nat :=
    if c.isDigit then c.toNat - 48
    else if 'a' ≤ c && c ≤ 'f' then c.toNat - 87
    else if 'A' ≤ c && c ≤ 'F' then c.toNat - 55
    else 16
  let cs := digits.toList
  if cs.isEmpty || !cs.all (value · < 16) then none
  else
    let n := cs.foldl (fun acc c => acc * 16 + value c) 0
    if n < Nat.pow 2 32 then some n else none

/-- The text of one piece that is not a code escape `\uHHHH`. -/
def Piece.decodeSimple : Piece → String
  | .escape c => String.singleton (match c with
      | 'b' => '\x08'
      | 'f' => '\x0C'
      | 'n' => '\n'
      | 'r' => '\r'
      | 't' => '\t'
      | 'v' => '\x0B'
      | c => c)
  | .nul => String.singleton '\x00'
  | .hex digits => String.singleton (Char.ofNat ((hexValue digits).getD 0))
  | p => p.text

/-- The value of the hexadecimal digits of a piece's text. -/
def hexOfText (t : String) : Except String Nat :=
  match hexValue t with
  | some n => .ok n
  | none => .error "error parsing hex"

/-- Whether a code lies in the trail half of the surrogates. -/
def isTrailSurrogate (n : Nat) : Bool := 0xDC00 ≤ n && n ≤ 0xDFFF

/-- Whether a code lies in the lead half of the surrogates. -/
def isLeadSurrogate (n : Nat) : Bool := 0xD800 ≤ n && n ≤ 0xDBFF

/-- The text pieces stand for, or the first error among them. A code escape `\uHHHH` that is a
lead surrogate joins the next piece, whose text must be the hexadecimal digits of a trail
surrogate; a trail surrogate alone is an error. The pair joins as the lead's ten bits shifted
above the bits of the trail's offset from the start of the planes beyond the first. -/
def decodePieces : List Piece → Except String String
  | [] => .ok ""
  | .unicode digits :: rest => do
    let n ← hexOfText digits
    if isTrailSurrogate n then throw "unexpected unicode trail surrogate"
    else if isLeadSurrogate n then
      match rest with
      | [] => throw "missing unicode trail surrogate"
      | next :: more =>
        let m ← hexOfText next.text
        if isTrailSurrogate m then
          let code := ((n - 0xD800) <<< 10) ||| (m - 0xDC00 + 0x10000)
          pure (String.singleton (Char.ofNat code) ++ (← decodePieces more))
        else throw "expecting unicode trail surrogate"
    else pure (String.singleton (Char.ofNat n) ++ (← decodePieces rest))
  | p :: rest => do pure (p.decodeSimple ++ (← decodePieces rest))

/-- Whether a number's text is hexadecimal: longer than two characters, starting `0x` or `0X`. -/
def isHexText (t : String) : Bool :=
  t.length > 2 && (t.startsWith "0x" || t.startsWith "0X")

/-- Whether a number's text is read as an integer. -/
def isIntegerText (t : String) : Bool :=
  !t.contains '.' && (isHexText t || (!t.contains 'e' && !t.contains 'E')) &&
    !(["Infinity", "-Infinity", "NaN", "-NaN"].contains t)

/-- A decimal integer with an optional sign, when it fits 64 signed bits. -/
def decimalInteger (t : String) : Option Int :=
  let (negative, digits) := match t.toList with
    | '+' :: rest => (false, rest)
    | '-' :: rest => (true, rest)
    | all => (false, all)
  if digits.isEmpty || !digits.all Char.isDigit then none
  else
    let n := digits.foldl (fun acc c => acc * 10 + (c.toNat - 48)) (0 : Nat)
    let v : Int := if negative then -(n : Int) else n
    if -(Nat.pow 2 63 : Int) ≤ v && v < (Nat.pow 2 63 : Int) then some v else none

/-- The number a number's text stands for, or why it stands for none. -/
def Number.ofText (t : String) : Except String Number :=
  if isIntegerText t then
    if isHexText t then
      match hexValue (t.drop 2).toString with
      | some n => .ok (.integer n)
      | none => .error "error parsing hex"
    else match decimalInteger t with
      | some i => .ok (.integer i)
      | none => .error "error parsing integer"
  else if t == "Infinity" then .ok (.float (1 / 0))
  else if t == "-Infinity" then .ok (.float (-1 / 0))
  else if t == "NaN" || t == "-NaN" then .ok (.float (0 / 0))
  else match Decimal.floatOfText? t with
    | some x => if x.isFinite then .ok (.float x) else .error "error parsing number: too large"
    | none => .error "error parsing number"

end CpuBench.Json5
