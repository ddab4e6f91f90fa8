import CpuBench.Decimal.Binary

/-!
# The fewest decimal digits that read back

A decimal `digits · 10^exp` *reads back* as a binary64 value `x` when it lies among the reals
that round to `x`: from halfway to the neighbour below to halfway to the neighbour above, both
ends included exactly when the mantissa is even. `Binary.shortest` finds a decimal that reads
back with as few significant digits as possible: for `n = 1, 2, …` digits it takes the grid
`10^(k - n)`, where `10^(k-1) ≤ x < 10^k`, and tests the two neighbours of `x` on that grid. The
first grid with a hit wins; of two hits the nearer one, and an exact tie goes by a `Tie` rule,
which is part of a notation rather than of the mathematics.

All comparisons cross-multiply naturals; no floating-point operation takes part.
-/

namespace CpuBench.Decimal

/-- The decimal `digits · 10^exp`. -/
structure Dec where
  digits : Nat
  exp : Int
  deriving DecidableEq, Repr

/-- Which of two equally near candidates wins. -/
inductive Tie where
  /-- The one with the even last digit. -/
  | toEven
  /-- The larger one. -/
  | up
  deriving DecidableEq, Repr

/-- Compares `a · 10^i` with `n · 2^j` exactly. -/
def cmpScaled (a : Nat) (i : Int) (n : Nat) (j : Int) : Ordering :=
  compare (a * Nat.pow 10 i.toNat * Nat.pow 2 (-j).toNat) (n * Nat.pow 2 j.toNat * Nat.pow 10 (-i).toNat)

/-- Whether `d` lies among the reals that round to `x` (to nearest, ties to even). In units of
`2^(q-2)` the value is `4m`, the upper end `4m + 2` and the lower end `4m - 2`, or `4m - 1`
below a power of two. -/
def Binary.readsBack (x : Binary) (d : Dec) : Bool :=
  let lo := if x.narrowBelow then 4 * x.m - 1 else 4 * x.m - 2
  let hi := 4 * x.m + 2
  let incl := x.m % 2 == 0
  let cl := cmpScaled d.digits d.exp lo (x.q - 2)
  let ch := cmpScaled d.digits d.exp hi (x.q - 2)
  (cl == .gt || (incl && cl == .eq)) && (ch == .lt || (incl && ch == .eq))

/-- Whether `x < 10^k`. -/
def Binary.below (x : Binary) (k : Int) : Bool :=
  cmpScaled 1 k x.m x.q == .gt

/-- Moves `k` until `10^(k-1) ≤ x < 10^k`, at most `fuel` steps. -/
def Binary.settleScale (x : Binary) : Nat → Int → Int
  | 0, k => k
  | fuel + 1, k =>
    if !x.below k then x.settleScale fuel (k + 1)
    else if x.below (k - 1) then x.settleScale fuel (k - 1)
    else k

/-- The least `k` with `x < 10^k`, for `x ≠ 0`: an estimate from the binary length of `x`
(`log10 2 ≈ 78913 / 2^18`), corrected by exact comparisons. -/
def Binary.scale (x : Binary) : Int :=
  let e2 : Int := (x.m.log2 : Int) + x.q
  x.settleScale 8 ((e2 * 78913) / 262144 + 1)

/-- `x` as the fraction `num / den` of naturals, measured on the grid `10^g`. -/
def Binary.onGrid (x : Binary) (g : Int) : Nat × Nat :=
  (x.m * Nat.pow 2 x.q.toNat * Nat.pow 10 (-g).toNat, Nat.pow 2 (-x.q).toNat * Nat.pow 10 g.toNat)

/-- The neighbour of `x` on the grid `10^g` that reads back, if any; of two, the nearer, and on
an exact tie the one that `tie` picks. -/
def Binary.pickOnGrid (x : Binary) (tie : Tie) (g : Int) : Option Dec :=
  let (num, den) := x.onGrid g
  let c := num / den
  let lower : Dec := ⟨c, g⟩
  let upper : Dec := ⟨c + 1, g⟩
  match x.readsBack lower, x.readsBack upper with
  | false, false => none
  | true, false => some lower
  | false, true => some upper
  | true, true =>
    match compare (2 * num) ((2 * c + 1) * den) with
    | .lt => some lower
    | .gt => some upper
    | .eq =>
      match tie with
      | .toEven => if c % 2 == 0 then some lower else some upper
      | .up => some upper

/-- Removes trailing zeros of the digits into the exponent, at most `fuel` of them. -/
def Dec.strip : Nat → Dec → Dec
  | 0, d => d
  | fuel + 1, d =>
    if d.digits != 0 && d.digits % 10 == 0 then
      Dec.strip fuel ⟨d.digits / 10, d.exp + 1⟩
    else d

/-- The exact decimal value of `x`: `m · 2^q = m · 5^(-q) · 10^q` for negative `q`. -/
def Binary.exact (x : Binary) : Dec :=
  if 0 ≤ x.q then ⟨x.m * Nat.pow 2 x.q.toNat, 0⟩ else ⟨x.m * Nat.pow 5 (-x.q).toNat, x.q⟩

/-- The fewest digits that read back as `x`, nearest to `x` among those, ties by `tie`;
trailing zeros moved into the exponent. Zero is `0 · 10^0`. Seventeen digits always suffice;
should none of the grids hit, the exact value is returned, never a guess. -/
def Binary.shortest (x : Binary) (tie : Tie) : Dec :=
  if x.m = 0 then ⟨0, 0⟩
  else
    let k := x.scale
    let found := (List.range' 1 17).findSome? fun (n : Nat) => x.pickOnGrid tie (k - (n : Int))
    match found with
    | some d => d.strip 400
    | none => x.exact.strip 1200

end CpuBench.Decimal
