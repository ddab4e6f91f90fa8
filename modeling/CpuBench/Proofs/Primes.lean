import Mathlib.NumberTheory.PrimeCounting
import CpuBench.Workload.Primes
import CpuBench.Word

/-!
# Trial division decides primality

After 2 and 3, `isPrime` only tries the candidates `i` and `i + 2` for `i = 5, 11, 17, …`,
and only while `i ≤ num / i`. Both halves of its correctness rest on one fact each:

* `not_prime_of_trialFrom_eq_false` — a candidate within the square root, and its partner two
  further, are both below the number, so a rejection always names a proper divisor;
* `trialFrom_eq_false_of_dvd` — the loop cannot step over a divisor that is prime to 6 and
  within the square root, since `i` and `i + 2` are the only numbers prime to 6 among
  `i … i + 5`; the least prime factor of a composite number prime to 6 is such a divisor.

`isPrime_iff_prime` puts them together. The loop tries the candidates `trialCandidates` lists
(`trialFrom_eq_all`), each within its guard, so none of them, nor the numbers two and six further
that the loop computes, leaves a 64-bit word (`trialCandidates_lt_u64Size`). `upTo` is then the
increasing list of the primes up to the limit, as many as the prime-counting function says
(`primes_by_trial_division`).
-/

namespace CpuBench.Primes

open Word

/-- The guard of the loop, `i ≤ num / i`, is the test `i * i ≤ num` without the product. -/
theorem le_div_iff_mul_self_le {num i : Nat} : i ≤ num / i ↔ i * i ≤ num := by
  rcases Nat.eq_zero_or_pos i with rfl | hi
  · simp
  · exact Nat.le_div_iff_mul_le hi

/-- A divisor of a number that `k` does not divide is not divisible by `k` either. -/
theorem mod_ne_zero_of_dvd {num d k : Nat} (hd : d ∣ num) (h : num % k ≠ 0) : d % k ≠ 0 :=
  fun hk => h (Nat.mod_eq_zero_of_dvd (Nat.dvd_trans (Nat.dvd_of_mod_eq_zero hk) hd))

/-- A remainder of zero by some `k` strictly between 1 and `num` shows `num` composite. -/
theorem not_prime_of_mod_eq_zero {num k : Nat} (h : num % k = 0) (hk : 2 ≤ k) (hlt : k < num) :
    ¬ num.Prime :=
  Nat.not_prime_of_dvd_of_lt (Nat.dvd_of_mod_eq_zero h) hk hlt

/-- **A rejection is a proof of compositeness.** From a candidate of at least 3, the loop only
answers `false` after finding a divisor strictly between 1 and the number. -/
theorem not_prime_of_trialFrom_eq_false {num i : Nat} (hi : 3 ≤ i)
    (h : trialFrom num i = false) : ¬ num.Prime := by
  fun_induction trialFrom num i with
  | case1 i hle hdiv =>
    -- the candidate is within the square root, so both it and its partner are below `num`
    have hsq : i * i ≤ num := le_div_iff_mul_self_le.mp hle
    have h3i : 3 * i ≤ i * i := Nat.mul_le_mul_right i hi
    simp only [Bool.or_eq_true, beq_iff_eq] at hdiv
    rcases hdiv with hmod | hmod
    · exact not_prime_of_mod_eq_zero hmod (by omega) (by omega)
    · exact not_prime_of_mod_eq_zero hmod (by omega) (by omega)
  | case2 i hle hdiv ih => exact ih (by omega) h
  | case3 i hgt => simp at h

/-- **No divisor is stepped over.** A divisor `d` of `num` that is prime to 6, not below the
candidate `i ≡ 5 (mod 6)` and within the square root makes the loop reject `num`. -/
theorem trialFrom_eq_false_of_dvd {num i d : Nat} (hi : i % 6 = 5) (hd : d ∣ num)
    (hd6 : d % 6 = 1 ∨ d % 6 = 5) (hid : i ≤ d) (hdd : d * d ≤ num) :
    trialFrom num i = false := by
  fun_induction trialFrom num i with
  | case1 i hle hdiv => rfl
  | case2 i hle hdiv ih =>
    -- neither `i` nor `i + 2` divides, so `d` is neither, and the next pair is not past it
    simp only [Bool.or_eq_true, beq_iff_eq, not_or] at hdiv
    have hne : d ≠ i := fun h => hdiv.1 (h ▸ Nat.mod_eq_zero_of_dvd hd)
    have hne' : d ≠ i + 2 := fun h => hdiv.2 (h ▸ Nat.mod_eq_zero_of_dvd hd)
    exact ih (by omega) (by omega)
  | case3 i hgt =>
    have hii : i * i ≤ num := le_trans (Nat.mul_le_mul hid hid) hdd
    exact absurd (le_div_iff_mul_self_le.mpr hii) hgt

/-- A composite number prime to 6 is rejected by the loop from 5: its least prime factor is
prime to 6 too, at least 5, and within the square root. -/
theorem trialFrom_five_eq_false_of_not_prime {num : Nat} (h4 : 4 ≤ num) (h2 : num % 2 ≠ 0)
    (h3 : num % 3 ≠ 0) (hnp : ¬ num.Prime) : trialFrom num 5 = false := by
  have hp := Nat.minFac_prime (show num ≠ 1 by omega)
  have hsq : num.minFac ^ 2 ≤ num := Nat.minFac_sq_le_self (by omega) hnp
  have hdvd := Nat.minFac_dvd num
  have hp2 := mod_ne_zero_of_dvd hdvd h2
  have hp3 := mod_ne_zero_of_dvd hdvd h3
  have hp5 : 5 ≤ num.minFac := by
    have := hp.two_le
    omega
  rw [Nat.pow_two] at hsq
  exact trialFrom_eq_false_of_dvd (by decide) hdvd (by omega) hp5 hsq

/-- **Primality.** `isPrime num` holds exactly when `num` is a prime number. -/
theorem isPrime_iff_prime (num : Nat) : isPrime num = true ↔ num.Prime := by
  unfold isPrime
  split_ifs with h1 h3 h23
  · simp only [false_iff]
    exact fun hp => absurd hp.two_le (by omega)
  · simp only [true_iff]
    rcases (show num = 2 ∨ num = 3 by omega) with rfl | rfl
    · exact Nat.prime_two
    · exact Nat.prime_three
  · simp only [false_iff]
    simp only [Bool.or_eq_true, beq_iff_eq] at h23
    rcases h23 with h | h
    · exact not_prime_of_mod_eq_zero h (by omega) (by omega)
    · exact not_prime_of_mod_eq_zero h (by omega) (by omega)
  · -- prime to 6 and at least 5: the loop decides, in both directions
    simp only [Bool.or_eq_true, beq_iff_eq, not_or] at h23
    constructor
    · intro htrue
      by_contra hnp
      rw [trialFrom_five_eq_false_of_not_prime (by omega) h23.1 h23.2 hnp] at htrue
      exact Bool.false_ne_true htrue
    · intro hp
      cases htrial : trialFrom num 5
      · exact absurd hp (not_prime_of_trialFrom_eq_false (by decide) htrial)
      · rfl

/-- The candidates the loop from `i` tries, in order: each passes the guard `i ≤ num / i`, and
the loop goes past one only when neither it nor its partner two further divides `num`. -/
def trialCandidates (num i : Nat) : List Nat :=
  if h : i ≤ num / i then
    i :: (if num % i == 0 || num % (i + 2) == 0 then [] else trialCandidates num (i + 6))
  else []
termination_by num + 1 - i
decreasing_by
  have := Nat.div_le_self num i
  omega

/-- The loop stops at a candidate that, or whose partner, divides `num`. -/
theorem trialCandidates_of_hit {num i : Nat} (hle : i ≤ num / i)
    (hdiv : (num % i == 0 || num % (i + 2) == 0) = true) : trialCandidates num i = [i] := by
  rw [trialCandidates, dif_pos hle, if_pos hdiv]

/-- The loop goes past a candidate when neither it nor its partner divides `num`. -/
theorem trialCandidates_of_miss {num i : Nat} (hle : i ≤ num / i)
    (hdiv : ¬(num % i == 0 || num % (i + 2) == 0) = true) :
    trialCandidates num i = i :: trialCandidates num (i + 6) := by
  rw [trialCandidates, dif_pos hle, if_neg hdiv]

/-- Past the guard the loop tries nothing more. -/
theorem trialCandidates_of_not_le {num i : Nat} (hgt : ¬i ≤ num / i) :
    trialCandidates num i = [] := by
  rw [trialCandidates, dif_neg hgt]

/-- **The loop tries exactly these candidates.** It answers `true` when no listed candidate
and no partner two further divides `num`. -/
theorem trialFrom_eq_all (num i : Nat) :
    trialFrom num i =
      (trialCandidates num i).all fun j => !(num % j == 0 || num % (j + 2) == 0) := by
  fun_induction trialFrom num i with
  | case1 i hle hdiv =>
    rw [trialCandidates_of_hit hle hdiv, List.all_cons, List.all_nil, hdiv]
    rfl
  | case2 i hle hdiv ih =>
    rw [trialCandidates_of_miss hle hdiv, List.all_cons, ← ih]
    simp [hdiv]
  | case3 i hgt =>
    rw [trialCandidates_of_not_le hgt]
    rfl

/-- Every candidate the loop tries passes its guard. -/
theorem le_div_of_mem_trialCandidates {num i j : Nat} (hj : j ∈ trialCandidates num i) :
    j ≤ num / j := by
  fun_induction trialFrom num i with
  | case1 i hle hdiv =>
    rw [trialCandidates_of_hit hle hdiv, List.mem_singleton] at hj
    exact hj ▸ hle
  | case2 i hle hdiv ih =>
    rw [trialCandidates_of_miss hle hdiv, List.mem_cons] at hj
    rcases hj with rfl | hj
    · exact hle
    · exact ih hj
  | case3 i hgt =>
    rw [trialCandidates_of_not_le hgt] at hj
    exact absurd hj List.not_mem_nil

/-- A pass of the loop runs only while `i ≤ num / i`; for a 64-bit `num` that bounds the
candidate by `2^32`, so neither `i + 2` nor the step to `i + 6` leaves the word. -/
theorem candidate_add_six_lt_u64Size {num i : Nat} (hnum : num < u64Size)
    (hle : i ≤ num / i) : i + 6 < u64Size := by
  have hsq : i * i ≤ num := le_div_iff_mul_self_le.mp hle
  have hi : i < Nat.pow 2 32 := by
    by_contra hbig
    have : Nat.pow 2 32 * Nat.pow 2 32 ≤ i * i := Nat.mul_le_mul (by omega) (by omega)
    have : u64Size ≤ i * i := by
      unfold u64Size
      exact le_trans (by decide) this
    omega
  have : Nat.pow 2 32 + 6 < u64Size := by decide
  omega

/-- The primes up to `limit` are listed in increasing order. -/
theorem upTo_pairwise_lt (limit : Nat) : (upTo limit).Pairwise (· < ·) :=
  (List.pairwise_lt_range' 1).filter _

/-- The primes up to `limit` are listed once each. -/
theorem upTo_nodup (limit : Nat) : (upTo limit).Nodup :=
  (List.nodup_range' 1).filter _

/-- The list holds exactly the primes not above `limit`. -/
theorem mem_upTo {limit p : Nat} : p ∈ upTo limit ↔ p.Prime ∧ p ≤ limit := by
  rw [upTo, List.mem_filter, List.mem_range'_1, isPrime_iff_prime]
  constructor
  · rintro ⟨⟨h2, hlt⟩, hp⟩
    exact ⟨hp, by omega⟩
  · rintro ⟨hp, hle⟩
    have := hp.two_le
    exact ⟨⟨this, by omega⟩, hp⟩

/-- As many primes are listed as the prime-counting function counts. -/
theorem length_upTo (limit : Nat) : (upTo limit).length = Nat.primeCounting limit := by
  have hset : (upTo limit).toFinset = Nat.primesLE limit := by
    ext p
    rw [List.mem_toFinset, mem_upTo, Nat.mem_primesLE, and_comm]
  rw [← List.toFinset_card_of_nodup (upTo_nodup limit), hset,
    Nat.primesLE_card_eq_primeCounting]

/-- **The loop stays inside the word.** Every candidate the loop from 5 tries for a 64-bit
`num` passes the guard, and neither its partner `i + 2` nor the next candidate `i + 6` leaves the
word. -/
theorem trialCandidates_lt_u64Size {num : Nat} (hnum : num < u64Size) :
    ∀ i ∈ trialCandidates num 5, i ≤ num / i ∧ i + 2 < u64Size ∧ i + 6 < u64Size := by
  intro i hi
  have hle := le_div_of_mem_trialCandidates hi
  have hsix := candidate_add_six_lt_u64Size hnum hle
  exact ⟨hle, by omega, hsix⟩

/-- **Trial division.** `isPrime` decides primality; the loop from 5 tries the candidates
`trialCandidates num 5`, and for a 64-bit `num` each passes its guard and neither it plus 2 nor
it plus 6 leaves the word; and `upTo limit` is the strictly increasing list of the primes
`p ≤ limit`, with no repeats, of length `π limit`. -/
theorem primes_by_trial_division :
    (∀ num, isPrime num = true ↔ num.Prime) ∧
    (∀ num, trialFrom num 5 =
        (trialCandidates num 5).all (fun i => !(num % i == 0 || num % (i + 2) == 0)) ∧
      (num < u64Size →
        ∀ i ∈ trialCandidates num 5, i ≤ num / i ∧ i + 2 < u64Size ∧ i + 6 < u64Size)) ∧
    ∀ limit, (upTo limit).Pairwise (· < ·) ∧ (upTo limit).Nodup ∧
      (∀ p, p ∈ upTo limit ↔ p.Prime ∧ p ≤ limit) ∧
      (upTo limit).length = Nat.primeCounting limit :=
  ⟨isPrime_iff_prime, fun num => ⟨trialFrom_eq_all num 5, trialCandidates_lt_u64Size⟩,
    fun limit => ⟨upTo_pairwise_lt limit, upTo_nodup limit, fun _ => mem_upTo,
      length_upTo limit⟩⟩

end CpuBench.Primes
