import Mathlib
import CpuBench.Report.Basic

/-!
# Binary64 values through Lean's model of floats

Floats are compared and computed as IEEE 754 says, through Lean's model of binary64
(`Float.Model`): a value is unpacked into a sign, a mantissa and an exponent, or zero, infinity
or NaN; an operation works on the unpacked values, rounds the result at its last bit
(`roundWithAccuracy`) and packs it again, overflowing to infinity when the exponent does not fit.

* Comparing: a finite value compares equal to itself (`beq_self_of_isFinite`), and comparing with
  zero is antisymmetric (`not_lt_zero_of_zero_le`, `zero_lt_iff_not_le_zero`).
* Ranges: `NonnegUpTo bound u` says that `u` is zero or finite, of positive sign, with a mantissa
  the format can hold and an exponent of at most `bound`. Rounding moves the exponent by at most
  one above the larger of its own and the one a mantissa of its width is shifted to
  (`roundWithAccuracy_nonnegUpTo`); packing keeps a value of exponent at most 971, the largest a
  finite binary64 value has (`nonnegUpTo_pack`); a natural number below `2^1022` converts to
  such a value (`nonnegUpTo_ofNat`), and so does its quotient by a divisor of at least 4
  (`nonnegUpTo_div`).
* Durations: a duration's seconds are a word and its nanoseconds those of a second, so its
  nanosecond count is below `2^94` and its milliseconds are a finite float of at least `0.0`
  (`Duration.toMillis_isFinite`, `Duration.zero_le_toMillis`).
-/

namespace CpuBench

open Float.Model Float.Model.UnpackedFloat

namespace Floats

/-! ## Comparing floats -/

/-- A finite value compares equal to itself: its exponent and mantissa do. -/
theorem compare_self_of_isFinite (u : UnpackedFloat) (h : u.isFinite = true) :
    u.compare u = some .eq := by
  cases u with
  | notANumber => exact absurd h Bool.false_ne_true
  | infinity s => exact absurd h Bool.false_ne_true
  | zero s => cases s <;> rfl
  | finite s m e hm =>
    have he : compare e e = .eq := Std.ReflCmp.compare_self
    have hm : compare m m = .eq := Std.ReflCmp.compare_self
    cases s
    · show some ((compare e e).then (compare m m)).swap = some .eq
      rw [he, hm]
      rfl
    · show some ((compare e e).then (compare m m)) = some .eq
      rw [he, hm]
      rfl

/-- Comparing zero with a value is comparing the value with zero, the other way round. -/
theorem zero_compare (u : UnpackedFloat) (s : UnpackedFloat.Sign) :
    (UnpackedFloat.zero s).compare u = (u.compare (.zero s)).map Ordering.swap := by
  cases u with
  | infinity t => cases s <;> cases t <;> rfl
  | notANumber => cases s <;> rfl
  | zero t => cases s <;> cases t <;> rfl
  | finite t m e hm => cases s <;> cases t <;> rfl

/-- A finite value is comparable with zero. -/
theorem compare_zero_isSome (u : UnpackedFloat) (h : u.isFinite = true) (s : UnpackedFloat.Sign) :
    ∃ o, u.compare (.zero s) = some o := by
  cases u with
  | notANumber => exact absurd h Bool.false_ne_true
  | infinity t => exact absurd h Bool.false_ne_true
  | zero t => exact ⟨_, rfl⟩
  | finite t m e hm => cases t <;> exact ⟨_, rfl⟩

/-- `0.0` unpacks to positive zero. -/
theorem unpack_zero : (0.0 : Float).toModel.unpack = .zero .positive :=
  rfl

/-- `a < b` is the comparison of the unpacked values answering `lt`. -/
theorem lt_iff (a b : Float) : a < b ↔ a.toModel.unpack.compare b.toModel.unpack = some .lt := by
  show a.lt b = true ↔ _
  unfold Float.lt
  rw [decide_eq_true_iff]
  show (a.toModel.unpack.compare b.toModel.unpack == some .lt) = true ↔ _
  rw [beq_iff_eq]

/-- `a ≤ b` is the comparison of the unpacked values answering `lt` or `eq`. -/
theorem le_iff (a b : Float) :
    a ≤ b ↔ ∃ o, a.toModel.unpack.compare b.toModel.unpack = some o ∧ o.isLE = true := by
  show a.le b = true ↔ _
  unfold Float.le
  rw [decide_eq_true_iff]
  show (a.toModel.unpack.compare b.toModel.unpack).any (·.isLE) = true ↔ _
  rw [Option.any_eq_true]

/-- **Reflexivity off NaN.** A finite float compares equal to itself. -/
theorem beq_self_of_isFinite {x : Float} (h : x.isFinite = true) : (x == x) = true := by
  show (x.toModel.unpack.compare x.toModel.unpack == some .eq) = true
  rw [compare_self_of_isFinite _ h]
  rfl

/-- A float that is at least zero is not below it. -/
theorem not_lt_zero_of_zero_le {x : Float} (h : 0.0 ≤ x) : ¬ x < 0.0 := by
  rw [le_iff, unpack_zero, zero_compare] at h
  rw [lt_iff, unpack_zero]
  obtain ⟨o, ho, hle⟩ := h
  intro hlt
  rw [hlt] at ho
  cases ho
  exact absurd hle (by decide)

/-- **Trichotomy with zero.** A finite float is above zero exactly when it is not at most
zero. -/
theorem zero_lt_iff_not_le_zero {x : Float} (h : x.isFinite = true) : 0.0 < x ↔ ¬ x ≤ 0.0 := by
  obtain ⟨o, ho⟩ := compare_zero_isSome _ h .positive
  rw [lt_iff, le_iff, unpack_zero, zero_compare, ho]
  cases o <;> simp [Ordering.swap, Ordering.isLE]

/-! ## Rounding at the last bit -/

/-- The format's constants: the target exponent of a value whose leading bit has weight `2^(x-1)`
keeps 53 bits, and never goes below the least subnormal exponent. -/
theorem targetExponent_binary64 (x : Int) :
    Format.binary64.targetExponent x = max (x - 53) (-1074) :=
  rfl

theorem mantissaBitsWithoutImplicit_binary64 :
    Format.binary64.mantissaBitsWithoutImplicit = 52 :=
  rfl

theorem exponentBias_binary64 : Format.binary64.exponentBias = 1023 :=
  rfl

/-- Shifting an extended mantissa right by `n` bits divides its mantissa by `2^n`. -/
theorem mantissa_shiftRight (em : ExtendedMantissa) (n : Nat) :
    (em >>> n).mantissa = em.mantissa / 2 ^ n := by
  induction n with
  | zero =>
    rw [Nat.pow_zero, Nat.div_one]
    rfl
  | succ n ih =>
    change (em >>> n).mantissa / 2 = _
    rw [ih, Nat.div_div_eq_div_mul, Nat.pow_succ]

/-- Rounding to nearest adds at most one to the mantissa. -/
theorem roundedMantissa_le (em : ExtendedMantissa) : em.roundedMantissa ≤ em.mantissa + 1 := by
  rcases em with ⟨m, _ | _, _ | _⟩
  · show m ≤ m + 1
    omega
  · show m ≤ m + 1
    omega
  · show m + m % 2 ≤ m + 1
    omega
  · show m + 1 ≤ m + 1
    omega

theorem mantissa_ofMantissaAndAccuracy (m : Nat) (a : Accuracy) :
    (ExtendedMantissa.ofMantissaAndAccuracy m a).mantissa = m := by
  cases a with
  | exact => rfl
  | inexact o => cases o <;> rfl

/-- The exponent a mantissa `m` at exponent `e` is shifted to: its own, or the one that leaves
53 bits, or the least subnormal exponent, whichever is largest. -/
theorem shift_exponent (m : Nat) (e : Int) (a : Accuracy) :
    (shiftToTargetExponent .binary64 m e a).2 =
      max e (max ((m.log2 : Int) + 1 + e - 53) (-1074)) := by
  show e + ((Format.binary64.targetExponent (totalExponent m e) - e).toNat : Int) = _
  rw [targetExponent_binary64, totalExponent]
  omega

/-- After the shift the mantissa has at most 53 bits. -/
theorem shift_mantissa_lt (m : Nat) (e : Int) (a : Accuracy) :
    (shiftToTargetExponent .binary64 m e a).1.mantissa < 2 ^ 53 := by
  show (ExtendedMantissa.ofMantissaAndAccuracy m a >>>
    (Format.binary64.targetExponent (totalExponent m e) - e).toNat).mantissa < 2 ^ 53
  rw [mantissa_shiftRight, mantissa_ofMantissaAndAccuracy, targetExponent_binary64, totalExponent,
    Nat.div_lt_iff_lt_mul (Nat.two_pow_pos _), ← Nat.pow_add]
  exact Nat.lt_of_lt_of_le Nat.lt_log2_self (Nat.pow_le_pow_right (by decide) (by omega))

/-- A number below `2^k` has at most `k` bits (and zero counts as one). -/
theorem log2_le_of_lt_two_pow {n k : Nat} (h : n < 2 ^ k) : n.log2 + 1 ≤ max k 1 := by
  rcases Nat.eq_zero_or_pos n with rfl | hpos
  · simp
  · have := (Nat.log2_lt (Nat.pos_iff_ne_zero.mp hpos)).mpr h
    omega

/-- A value of positive sign that is zero, or finite with a mantissa of at most 53 bits and an
exponent of at most `bound`. -/
def NonnegUpTo (bound : Int) : UnpackedFloat → Prop
  | .zero .positive => True
  | .finite .positive m e _ => m < 2 ^ 53 ∧ e ≤ bound
  | _ => False

theorem NonnegUpTo.mono {bound bound' : Int} {u : UnpackedFloat} (hle : bound ≤ bound')
    (hu : NonnegUpTo bound u) : NonnegUpTo bound' u := by
  match u, hu with
  | .zero .positive, _ => exact trivial
  | .finite .positive _ _ _, ⟨hm, he⟩ => exact ⟨hm, Int.le_trans he hle⟩

/-- **Rounding moves the exponent by at most one.** Rounding a mantissa below `2^p` at exponent
`e` gives zero or a finite value whose exponent is at most one above the larger of `e` and the
exponent a mantissa of `p` bits is shifted to. -/
theorem roundWithAccuracy_nonnegUpTo (m : Nat) (e : Int) (a : Accuracy) {p : Nat}
    (hm : m < 2 ^ p) :
    NonnegUpTo (max e (max (p + e - 52) (-1074)) + 1)
      (roundWithAccuracy .binary64 .positive m e a) := by
  have hlog := log2_le_of_lt_two_pow hm
  rw [roundWithAccuracy]
  -- the first shift lands at `e₁`, with a mantissa of at most 53 bits
  have hexp₁ := shift_exponent m e a
  have hlt₁ := shift_mantissa_lt m e a
  generalize shiftToTargetExponent .binary64 m e a = first at hexp₁ hlt₁
  obtain ⟨em₁, e₁⟩ := first
  dsimp only at hexp₁ hlt₁ ⊢
  -- rounding up may carry into a 54th bit, which the second shift takes back
  have hround := roundedMantissa_le em₁
  have hexp₂ := shift_exponent em₁.roundedMantissa e₁ .exact
  have hlt₂ := shift_mantissa_lt em₁.roundedMantissa e₁ .exact
  generalize shiftToTargetExponent .binary64 em₁.roundedMantissa e₁ .exact = second at hexp₂ hlt₂
  obtain ⟨em₂, e₂⟩ := second
  dsimp only at hexp₂ hlt₂ ⊢
  have hlog₂ := log2_le_of_lt_two_pow
    (show em₁.roundedMantissa < 2 ^ 54 by rw [Nat.pow_succ]; omega)
  split
  · exact trivial
  · refine ⟨hlt₂, ?_⟩
    omega

/-! ## Packing and unpacking -/

theorem unpackSign_packComponents {spec : Format} {s : Sign} {exponent mantissa} :
    unpackSign (packComponents spec s exponent mantissa) = s.toBitVec := by
  ext i hi
  simp [unpackSign, packComponents, BitVec.getLsbD_append]
  rw [if_neg (by omega), if_neg (by omega),
    show spec.mantissaBitsWithoutImplicit + spec.exponentBits + i -
      spec.mantissaBitsWithoutImplicit - spec.exponentBits = i by omega,
    BitVec.getLsbD_eq_getElem]

theorem ofBitVec_zero : Sign.ofBitVec 0#1 = .positive :=
  rfl

theorem toNat_neg_one : (-1#11).toNat = 2047 :=
  rfl

/-- The bits of a value with a clear sign bit and an exponent field that is not all ones unpack to
a value the format holds, of exponent at most 971. -/
theorem nonnegUpTo_unpack (b : BitVec 64) (hexp : @unpackExponent .binary64 b ≠ -1#11)
    (hsign : @unpackSign .binary64 b = 0#1) :
    NonnegUpTo 971 (UnpackedFloat.unpack .binary64 b) := by
  have hbound : BitVec.toNat (w := 11) (@unpackExponent .binary64 b) ≤ 2046 := by
    have hlt := (@unpackExponent .binary64 b).isLt
    have hne : (@unpackExponent .binary64 b).toNat ≠ 2047 := fun h =>
      hexp (BitVec.eq_of_toNat_eq (by rw [h]; rfl))
    simp only [Format.binary64] at hlt
    omega
  unfold UnpackedFloat.unpack
  simp only [hexp, hsign, exponentBias_binary64, ↓reduceIte, ofBitVec_zero]
  split_ifs with hzero
  · exact trivial
  · -- a subnormal value sits at the least exponent
    refine ⟨Nat.lt_trans (@unpackMantissa .binary64 b).isLt (by decide), ?_⟩
    rw [hzero]
    decide
  · exact ⟨(1#1 ++ @unpackMantissa .binary64 b).isLt, by omega⟩

/-- Packing a finite binary64 value: an exponent past the format overflows to infinity, a full
mantissa is normal, any other subnormal. -/
theorem pack_finite (s : Sign) (m : Nat) (e : Int) (hm : 0 < m) :
    UnpackedFloat.pack .binary64 (.finite s m e hm) =
      if 2 ^ 11 ≤ (e + 1023 + 52).toNat + 1 then packedInfinity .binary64 s
      else if m.log2 + 1 = 53 then
        packComponents .binary64 s (BitVec.ofNat 11 (e + 1023 + 52).toNat) (BitVec.ofNat 52 m)
      else packComponents .binary64 s 0#11 (BitVec.ofNat 52 m) :=
  rfl

/-- **Packing does not overflow** a value of exponent at most 971, and keeps its sign. -/
theorem nonnegUpTo_pack {u : UnpackedFloat} (hu : NonnegUpTo 971 u) :
    NonnegUpTo 971 (Float.Model.pack u).unpack := by
  have hfields : @unpackExponent .binary64 (UnpackedFloat.pack .binary64 u) ≠ -1#11 ∧
      @unpackSign .binary64 (UnpackedFloat.pack .binary64 u) = 0#1 := by
    match u, hu with
    | .zero .positive, _ => exact ⟨by decide, by decide⟩
    | .finite .positive m e hm, ⟨_, (he : e ≤ 971)⟩ =>
      -- the biased exponent stays below the all-ones field of infinity
      rw [pack_finite, if_neg (by omega)]
      split <;> rw [unpackExponent_packComponents, unpackSign_packComponents]
      · refine ⟨fun h => ?_, rfl⟩
        have := congrArg BitVec.toNat h
        rw [BitVec.toNat_ofNat, toNat_neg_one] at this
        omega
      · exact ⟨by decide, rfl⟩
  exact nonnegUpTo_unpack _ hfields.1 hfields.2

/-! ## Conversions and quotients -/

theorem compare_zero_gt {n : Nat} (h : 0 < n) : compare (n : Int) 0 = .gt :=
  Int.compare_eq_gt.mpr (by omega)

/-- **A natural number converts to a finite value.** A number below `2^p`, for `p ≤ 1022`, rounds
to a value of exponent at most 971. -/
theorem nonnegUpTo_ofNat {n p : Nat} (hn : n < 2 ^ p) (hp : p ≤ 1022) :
    NonnegUpTo 971 (UnpackedFloat.ofNat .binary64 n) := by
  rcases Nat.eq_zero_or_pos n with rfl | hpos
  · exact trivial
  unfold UnpackedFloat.ofNat UnpackedFloat.ofInt UnpackedFloat.normalize
  rw [compare_zero_gt hpos]
  unfold UnpackedFloat.round decreaseExponent
  dsimp only
  rw [Int.toNat_natCast]
  -- the number is first widened by `k` bits, at the exponent `-k`
  generalize (0 - Format.binary64.targetExponent (totalExponent n 0)).toNat = k
  have hshift : n <<< k < 2 ^ (p + k) := by
    rw [Nat.shiftLeft_eq, Nat.pow_add]
    exact Nat.mul_lt_mul_of_pos_right hn (Nat.two_pow_pos k)
  apply NonnegUpTo.mono _ (roundWithAccuracy_nonnegUpTo _ _ _ hshift)
  omega

/-- **Dividing by at least 4 does not overflow.** The quotient of a value of exponent at most 971
by a normal positive divisor of exponent at least `-50` has exponent at most 971 again. -/
theorem nonnegUpTo_div {x : UnpackedFloat} {m₂ : Nat} {e₂ : Int} {h₂ : 0 < m₂}
    (hx : NonnegUpTo 971 x) (hm₂ : 2 ^ 52 ≤ m₂) (he₂ : -50 ≤ e₂) :
    NonnegUpTo 971 (UnpackedFloat.div .binary64 x (.finite .positive m₂ e₂ h₂)) := by
  match x, hx with
  | .zero .positive, _ => exact trivial
  | .finite .positive m₁ e₁ h₁, ⟨hm₁, he₁⟩ =>
    have hlog₁ := log2_le_of_lt_two_pow hm₁
    have hlog₂ : 52 ≤ m₂.log2 := (Nat.le_log2 (by omega)).mpr hm₂
    show NonnegUpTo 971 (roundWithAccuracy .binary64 .positive _ _ _)
    -- the quotient's exponent `te` is below the dividend's, as the divisor has 53 bits
    have hte : min (e₁ - e₂) (Format.binary64.targetExponent (totalExponent m₁ e₁ -
        totalExponent m₂ e₂)) ≤ min (e₁ - e₂) 968 := by
      rw [targetExponent_binary64, totalExponent, totalExponent]
      omega
    generalize min (e₁ - e₂) (Format.binary64.targetExponent (totalExponent m₁ e₁ -
      totalExponent m₂ e₂)) = te at hte
    generalize hshift : (e₁ - e₂ - te).toNat = shift
    -- the dividend has at most 53 bits and the divisor at least 53, so the quotient of the
    -- widened dividend has at most `shift + 1`
    have hq : m₁ <<< shift / m₂ < 2 ^ (shift + 1) := by
      rw [Nat.div_lt_iff_lt_mul h₂, Nat.shiftLeft_eq]
      calc m₁ * 2 ^ shift < 2 ^ 53 * 2 ^ shift :=
            Nat.mul_lt_mul_of_pos_right hm₁ (Nat.two_pow_pos _)
        _ = 2 ^ (shift + 1) * 2 ^ 52 := by
          rw [← Nat.pow_add, ← Nat.pow_add]
          congr 1
          omega
        _ ≤ 2 ^ (shift + 1) * m₂ := Nat.mul_le_mul_left _ hm₂
    apply NonnegUpTo.mono _ (roundWithAccuracy_nonnegUpTo _ _ _ hq)
    omega

/-- A million unpacks to `8589934592000000 · 2^-33`. -/
theorem unpack_million :
    (1000000.0 : Float).toModel.unpack = .finite .positive 8589934592000000 (-33) (by decide) :=
  rfl

theorem isFinite_of_nonnegUpTo {x : Float} {bound : Int}
    (h : NonnegUpTo bound x.toModel.unpack) : x.isFinite = true := by
  show x.toModel.unpack.isFinite = true
  match x.toModel.unpack, h with
  | .zero .positive, _ => rfl
  | .finite .positive _ _ _, _ => rfl

theorem zero_le_of_nonnegUpTo {x : Float} {bound : Int} (h : NonnegUpTo bound x.toModel.unpack) :
    0.0 ≤ x := by
  rw [le_iff, unpack_zero]
  match x.toModel.unpack, h with
  | .zero .positive, _ => exact ⟨.eq, rfl, rfl⟩
  | .finite .positive _ _ _, _ => exact ⟨.lt, rfl, rfl⟩

end Floats

/-! ## Durations in milliseconds -/

namespace Duration

open Floats

/-- A duration's nanosecond count has at most 94 bits. -/
theorem toNanos_lt (d : Duration) : d.toNanos < 2 ^ 94 := by
  have hs := d.secs_lt
  have hn := d.nanos_lt
  have h64 : Nat.pow 2 64 = 18446744073709551616 := rfl
  unfold toNanos
  omega

theorem nonnegUpTo_toMillis (d : Duration) : NonnegUpTo 971 d.toMillis.toModel.unpack := by
  show NonnegUpTo 971 (Float.Model.pack (UnpackedFloat.div .binary64
    (Float.Model.pack (UnpackedFloat.ofNat .binary64 d.toNanos)).unpack
    (1000000.0 : Float).toModel.unpack)).unpack
  rw [unpack_million]
  exact nonnegUpTo_pack (nonnegUpTo_div (nonnegUpTo_pack (nonnegUpTo_ofNat d.toNanos_lt
    (by decide))) (by decide) (by decide))

/-- **A duration's milliseconds are finite.** -/
theorem toMillis_isFinite (d : Duration) : d.toMillis.isFinite = true :=
  isFinite_of_nonnegUpTo d.nonnegUpTo_toMillis

/-- **A duration's milliseconds are not negative.** -/
theorem zero_le_toMillis (d : Duration) : 0.0 ≤ d.toMillis :=
  zero_le_of_nonnegUpTo d.nonnegUpTo_toMillis

end Duration

end CpuBench
