/-!
# Binary64 values as exact naturals

A finite binary64 value is `± m · 2^q` for a natural `m` and an integer `q`. `Binary.ofBits`
reads them off the 64 bits; the sign and the special values are told apart by `Float.classify`
first. Everything downstream (shortest digits, fixed places) works on these exact naturals, so
no floating-point operation decides a digit.
-/

namespace CpuBench.Decimal

/-- A finite non-negative binary64 magnitude `m · 2^q`. -/
structure Binary where
  m : Nat
  q : Int
  /-- The gap to the value below is half the gap to the value above: `m` is a power of two
  that is not the least normal mantissa. -/
  narrowBelow : Bool
  deriving DecidableEq, Repr

/-- The magnitude encoded by the exponent and fraction fields of `b`; the sign bit is ignored. -/
def Binary.ofBits (b : UInt64) : Binary :=
  let e := ((b >>> 52) &&& 0x7FF).toNat
  let f := (b &&& 0xFFFFFFFFFFFFF).toNat
  if e == 0 then ⟨f, -1074, false⟩ else ⟨Nat.pow 2 52 + f, (e : Int) - 1075, f == 0 && e > 1⟩

/-- What kind of value a float is. -/
inductive FloatKind where
  | nan
  | infinite (negative : Bool)
  | finite (negative : Bool) (magnitude : Binary)
  deriving DecidableEq, Repr

/-- Splits a float into its kind, sign and exact magnitude. -/
def classify (x : Float) : FloatKind :=
  let b := x.toBits
  let negative := (b >>> 63) == 1
  let e := (b >>> 52) &&& 0x7FF
  let f := b &&& 0xFFFFFFFFFFFFF
  if e == 0x7FF then
    if f == 0 then .infinite negative else .nan
  else .finite negative (Binary.ofBits b)

end CpuBench.Decimal
