import CpuBench.Decimal.Shortest

/-!
# Writing numbers as text

A float is written in one of two ways in this project.

* **Shortest form**: the fewest digits that read back (`Binary.shortest`), laid out by a
  `Notation` record: positionally when the point falls in a window around the digits,
  otherwise as `d.ddde±x`. `Notation.json` is the layout of JSON numbers, `Notation.plain` the
  always-positional layout of numbers in messages and tables.
* **Fixed places**: the exact binary value rounded to a number of places, a half going to the
  even neighbour (`fixed`).

Naturals and integers are written in decimal (`Nat.repr`).
-/

namespace CpuBench.Decimal

/-- The decisions of a shortest-form layout. With `n` digits and exponent `e`, the decimal point
falls `n + e` places after the first digit; the form is positional when that point position lies
in `[pointFrom, pointTo]`. -/
structure Notation where
  /-- Least point position written positionally, if any bound. -/
  pointFrom : Option Int
  /-- Greatest point position written positionally, if any bound. -/
  pointTo : Option Int
  /-- Whether an integral positional value keeps a `.0`. -/
  pointZero : Bool
  /-- Whether a positive exponent carries a `+`. -/
  expPlus : Bool
  /-- Which of two equally near shortest decimals is written. -/
  tie : Tie
  /-- Text of a NaN. -/
  nan : String
  /-- Text of positive infinity. -/
  inf : String
  /-- Text of negative infinity. -/
  negInf : String

/-- JSON numbers: positional for `1e-5 ≤ |x| < 1e16` with `.0` on integral values, otherwise
`1e+16`, `1.5e-7`; ties to even. JSON has no NaN or infinity, so those are written `null`. -/
def Notation.json : Notation where
  pointFrom := some (-4)
  pointTo := some 16
  pointZero := true
  expPlus := true
  tie := .toEven
  nan := "null"
  inf := "null"
  negInf := "null"

/-- Plain numbers in messages and tables: always positional, no `.0` on integral values, a tie
goes up; `NaN`, `inf`, `-inf`. -/
def Notation.plain : Notation where
  pointFrom := none
  pointTo := none
  pointZero := false
  expPlus := false
  tie := .up
  nan := "NaN"
  inf := "inf"
  negInf := "-inf"

/-- `n` zeros. -/
def zeros (n : Nat) : String :=
  String.ofList (List.replicate n '0')

/-- Whether the point position `p` is written positionally under `nt`. -/
def Notation.positional (nt : Notation) (p : Int) : Bool :=
  (match nt.pointFrom with | some a => decide (a ≤ p) | none => true) &&
  (match nt.pointTo with | some b => decide (p ≤ b) | none => true)

/-- Lays out the decimal `d` (no trailing zeros, or zero itself) without a sign. -/
def Notation.layout (nt : Notation) (d : Dec) : String :=
  let s := Nat.repr d.digits
  let n : Int := s.length
  let p := n + d.exp
  if nt.positional p then
    if 0 ≤ d.exp then
      s ++ zeros d.exp.toNat ++ (if nt.pointZero then ".0" else "")
    else if 0 < p then
      String.ofList (s.toList.take p.toNat) ++ "." ++ String.ofList (s.toList.drop p.toNat)
    else
      "0." ++ zeros (-p).toNat ++ s
  else
    let e := p - 1
    let expText :=
      if e < 0 then "-" ++ Nat.repr e.natAbs
      else (if nt.expPlus then "+" else "") ++ Nat.repr e.toNat
    let mant := match s.toList with
      | [c] => String.singleton c
      | c :: rest => String.singleton c ++ "." ++ String.ofList rest
      | [] => "0"
    mant ++ "e" ++ expText

/-- Writes `x` in the notation `nt`: sign, then the shortest digits laid out. -/
def Notation.render (nt : Notation) (x : Float) : String :=
  match classify x with
  | .nan => nt.nan
  | .infinite negative => if negative then nt.negInf else nt.inf
  | .finite negative b =>
    (if negative then "-" else "") ++ nt.layout (b.shortest nt.tie)

/-- `⌊num / den⌉` with a half going to the even neighbour. -/
def roundHalfEven (num den : Nat) : Nat :=
  let q := num / den
  let r := num % den
  match compare (2 * r) den with
  | .lt => q
  | .gt => q + 1
  | .eq => if q % 2 == 0 then q else q + 1

/-- The exact value `m · 2^q` times `10^places`, rounded half to even. -/
def Binary.scaledRound (b : Binary) (places : Nat) : Nat :=
  if 0 ≤ b.q then b.m * Nat.pow 2 b.q.toNat * Nat.pow 10 places
  else roundHalfEven (b.m * Nat.pow 10 places) (Nat.pow 2 (-b.q).toNat)

/-- `x` with exactly `places` digits after the point, from its exact binary value, a half going to
the even neighbour. The sign is kept even when the rounded value is zero. -/
def fixed (places : Nat) (x : Float) : String :=
  match classify x with
  | .nan => "NaN"
  | .infinite negative => if negative then "-inf" else "inf"
  | .finite negative b =>
    let r := b.scaledRound places
    let whole := Nat.repr (r / Nat.pow 10 places)
    let frac := Nat.repr (r % Nat.pow 10 places)
    let body := if places = 0 then whole
      else whole ++ "." ++ zeros (places - frac.length) ++ frac
    (if negative then "-" else "") ++ body

end CpuBench.Decimal
