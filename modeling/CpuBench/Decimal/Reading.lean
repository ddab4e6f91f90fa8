import CpuBench.Decimal.Binary

/-!
# Reading decimal numbers into floats

A decimal number arrives as a significand below `2^64`, a decimal exponent and a sign. The reader
turns the significand into the nearest float and then multiplies or divides by powers of ten,
each taken as the nearest float to `10^k` for `k ≤ 308`, and each step rounded as floats round.
Exponents beyond 308 are taken in steps of `10^308`. A product that becomes infinite is out of
range; a quotient that reaches zero stays zero.

The result is the nearest float for most inputs but not for all: a value with more than about
nineteen significant digits, or one that needs two rounding steps, may land on a neighbour. That
is the reading rule of the data this project exchanges, and it is kept as is.

Settings files are read with the exact rule instead: `nearestOfDecimal` rounds the exact ratio
once, and `floatOfText?` reads float text in the common form, an optional sign, digits with an
optional point, an optional exponent, or one of the words `inf`, `infinity` and `nan` in any
case.
-/

namespace CpuBench.Decimal

/-- The nearest float to `n`, ties to even: the binary64 value that the model of floats rounds
`n` to, which is what the machine conversion of a word gives below `2^64`. -/
def nearestFloat (n : Nat) : Float :=
  .ofModel (.ofNat n)

/-- The nearest floats to `10^k` for `k = 0 … 308`. -/
def powersOfTen : Array Float :=
  ((List.range 309).map fun k => Float.ofScientific 1 false k).toArray

/-- The nearest float to `10^k`, for `k ≤ 308`. -/
def powerOfTen (k : Nat) : Float :=
  powersOfTen.getD k 0

/-- Why a number could not be read. -/
inductive ReadError where
  /-- Its magnitude is too large for a float. -/
  | outOfRange
  deriving DecidableEq, Repr

/-- Scales `f` by `10^exponent` in steps of at most `10^308`, at most `fuel` steps. -/
def scaleByTen : Nat → Float → Int → Except ReadError Float
  | 0, f, _ => .ok f
  | fuel + 1, f, exponent =>
    if exponent.natAbs ≤ 308 then
      let pow := powerOfTen exponent.natAbs
      if 0 ≤ exponent then
        let g := f * pow
        if g.isInf then .error .outOfRange else .ok g
      else .ok (f / pow)
    else if f == 0 then .ok f
    else if 0 ≤ exponent then .error .outOfRange
    else scaleByTen fuel (f / powerOfTen 308) (exponent + 308)

/-- The float read from `± significand · 10^exponent`. -/
def readParts (positive : Bool) (significand : Nat) (exponent : Int) :
    Except ReadError Float := do
  let f ← scaleByTen (exponent.natAbs / 308 + 2) (nearestFloat significand) exponent
  pure (if positive then f else -f)

/-- `a / b` rounded to the nearest natural number, ties to even. -/
def roundDiv (a b : Nat) : Nat :=
  let q := a / b
  let r := a % b
  if 2 * r > b || (2 * r == b && q % 2 == 1) then q + 1 else q

/-- Whether `num / den ≥ 2^e`. -/
def atLeastPow2 (num den : Nat) (e : Int) : Bool :=
  if 0 ≤ e then num ≥ den * Nat.pow 2 e.toNat else num * Nat.pow 2 e.natAbs ≥ den

/-- The nearest float to `digits · 10^exp10`, ties to even. The exact ratio is placed between
two powers of two, which fixes the weight of the last bit the float can hold (never below the
least subnormal), and the ratio is rounded once at that bit. Values far beyond the float range
are infinite and values far below the least subnormal are zero. -/
def nearestOfDecimal (digits : Nat) (exp10 : Int) : Float :=
  let width : Int := (Nat.repr digits).length
  if digits == 0 then 0
  else if exp10 + width > 310 then 1 / 0
  else if exp10 + width < -330 then 0
  else
    let num := if 0 ≤ exp10 then digits * Nat.pow 10 exp10.toNat else digits
    let den := if 0 ≤ exp10 then 1 else Nat.pow 10 exp10.natAbs
    let e0 : Int := (num.log2 : Int) - den.log2
    let e := if atLeastPow2 num den e0 then e0 else e0 - 1
    let lsb := max (e - 52) (-1074)
    let m := if 0 ≤ lsb then roundDiv num (den * Nat.pow 2 lsb.toNat)
      else roundDiv (num * Nat.pow 2 lsb.natAbs) den
    m.toUInt64.toFloat.scaleB lsb

/-- Reads the digits of a decimal number without its sign: digits with an optional point and
fraction, at least one digit in all, then an optional exponent. Answers the digits as one
number and the power of ten to scale it by. -/
def decimalOfChars? (cs : List Char) : Option (Nat × Int) :=
  let whole := cs.takeWhile Char.isDigit
  let cs := cs.dropWhile Char.isDigit
  let (fraction, cs) := match cs with
    | '.' :: rest => (rest.takeWhile Char.isDigit, rest.dropWhile Char.isDigit)
    | rest => ([], rest)
  let exponent : Option Int := match cs with
    | [] => some 0
    | e :: rest =>
      if e == 'e' || e == 'E' then
        let (negative, ds) := match rest with
          | '+' :: r => (false, r)
          | '-' :: r => (true, r)
          | r => (false, r)
        if !ds.isEmpty && ds.all Char.isDigit then
          let n : Int := ds.foldl (fun acc c => acc * 10 + (c.toNat - 48)) 0
          some (if negative then -n else n)
        else none
      else none
  if whole.isEmpty && fraction.isEmpty then none
  else exponent.map fun x =>
    ((whole ++ fraction).foldl (fun acc c => acc * 10 + (c.toNat - 48)) 0,
     x - fraction.length)

/-- A float written in decimal with an optional sign and exponent, or as `inf`, `infinity` or
`nan` in any case, rounded to the nearest float. -/
def floatOfText? (s : String) : Option Float :=
  let (negative, body) := match s.toList with
    | '+' :: rest => (false, rest)
    | '-' :: rest => (true, rest)
    | all => (false, all)
  let word := String.ofList (body.map Char.toLower)
  let magnitude : Option Float :=
    if word == "inf" || word == "infinity" then some (1 / 0)
    else if word == "nan" then some (0 / 0)
    else (decimalOfChars? body).map fun (digits, exp10) => nearestOfDecimal digits exp10
  magnitude.map fun x => if negative then -x else x

end CpuBench.Decimal
