import Mathlib.Algebra.Order.BigOperators.Group.LocallyFinite
import Mathlib.Order.Interval.Finset.Nat
import CpuBench.Workload.Records
import CpuBench.Proofs.Fibonacci
import CpuBench.Proofs.Primes

/-!
# Records and the sum of their weights

Record `i` takes two checked products, `i * i` and then `i * i * i`, and the Fibonacci number of
`i mod 25`, which is at most `F 24` and always fits. So a record is built exactly when its cube
is a word, and it is then the record `Record.expected i` that the workload means (`build_eq`).

The workload keeps the records in a table under the keys `key<i>`:

* `recordKey_injective` — the digits after `key` spell the index, so distinct indices never
  share a key;
* `buildFrom_lookup` — a built table therefore gives back, under each index's key, the record
  of that index, so the lookups of the second pass never miss;
* `sumFrom_eq` — the second pass adds the exact weights, and since its partial sums only grow,
  its answer is the checked value of the exact total;
* `weightSum_overflow_of_cube` — the sum leaves the word before any cube does: an index whose
  cube leaves the word either weighs that cube or is an odd prime, and then its even neighbour
  below weighs a cube that leaves the word as well.

Together, the workload is the checked value of the sum of the weights (`totalWeight_eq`).
-/

namespace CpuBench

/-- The number of unsigned words is `2 ^ 64`. -/
theorem Word.u64Size_eq_two_pow : Word.u64Size = 2 ^ 64 :=
  rfl

namespace Records

open Word Fibonacci

/-! ## One record -/

/-- The record of index `i` as the workload means it: the index, its square and cube, whether
it is prime and the Fibonacci number of `i mod 25`. -/
def Record.expected (i : Nat) : Record :=
  { value := i, square := i ^ 2, cube := i ^ 3, sqrt := (Float.ofNat i).sqrt,
    isPrime := decide i.Prime, fibonacci := fib (i % fibonacciModulus) }

/-- The weight of index `i`: its square when `i` is prime, its cube otherwise. -/
def weightOf (i : Nat) : Nat :=
  if i.Prime then i ^ 2 else i ^ 3

/-- The sum of the weights of the indices below `n`, over unbounded naturals. -/
def weightSum (n : Nat) : Nat :=
  ∑ i ∈ Finset.range n, weightOf i

/-- The Fibonacci index of a record is below 25, where every Fibonacci number is a word. -/
theorem iterative_fibonacciIndex (i : Nat) :
    Fibonacci.iterative (i % fibonacciModulus) = .ok (fib (i % fibonacciModulus)) := by
  have hindex : i % fibonacciModulus ≤ 93 := by
    have hmod : i % fibonacciModulus < 25 := Nat.mod_lt i (by decide)
    omega
  rw [iterative_eq_checkU64, checkU64_of_lt (fib_lt_u64Size_iff.mpr hindex)]

/-- The primality flag of a record is the primality of its index. -/
theorem isPrime_eq_decide (i : Nat) : Primes.isPrime i = decide i.Prime :=
  Bool.eq_iff_iff.mpr (by rw [decide_eq_true_iff]; exact Primes.isPrime_iff_prime i)

/-- **Building a record.** Record `i` is built whenever its cube is a word, and it is then the
record the workload means. -/
theorem build_of_cube_lt {i : Nat} (h : i ^ 3 < u64Size) :
    Record.build i = .ok (Record.expected i) := by
  have hcube : i * i * i < u64Size := by rwa [← pow_three']
  -- the square is at most the cube, unless both vanish
  have hsquare : i * i < u64Size := by
    rcases Nat.eq_zero_or_pos i with rfl | hpos
    · exact hcube
    · exact lt_of_le_of_lt (Nat.le_mul_of_pos_right (i * i) hpos) hcube
  rw [Record.build, mulU64_eq_checkU64, checkU64_of_lt hsquare, ok_bind, mulU64_eq_checkU64,
    checkU64_of_lt hcube, ok_bind, iterative_fibonacciIndex, ok_bind, Record.expected,
    isPrime_eq_decide, pow_two, pow_three']
  rfl

/-- A record whose cube leaves the word is the overflow fault, whether the square already
leaves it or only the cube does. -/
theorem build_of_cube_ge {i : Nat} (h : u64Size ≤ i ^ 3) :
    Record.build i = .error (.overflow operation) := by
  rw [Record.build, mulU64_eq_checkU64]
  by_cases hsquare : i * i < u64Size
  · rw [checkU64_of_lt hsquare, ok_bind, mulU64_eq_checkU64,
      checkU64_of_le (by rwa [← pow_three']), error_bind]
  · rw [checkU64_of_le (Nat.le_of_not_lt hsquare), error_bind]

/-- Record `i` is built exactly when its cube is a word, and is the overflow fault otherwise. -/
theorem build_eq (i : Nat) :
    Record.build i =
      if i ^ 3 < u64Size then .ok (Record.expected i) else .error (.overflow operation) := by
  split
  · exact build_of_cube_lt ‹_›
  · exact build_of_cube_ge (Nat.le_of_not_lt ‹_›)

/-- A record that was built is the record of its index. -/
theorem eq_expected_of_build_eq_ok {i : Nat} {record : Record}
    (h : Record.build i = .ok record) : record = Record.expected i := by
  rw [build_eq] at h
  split at h
  · exact (Except.ok.inj h).symm
  · cases h

/-- The record of `i` weighs the weight of `i`. -/
theorem expected_weight (i : Nat) : (Record.expected i).weight = weightOf i := by
  unfold Record.weight Record.expected weightOf
  by_cases hp : i.Prime <;> simp [hp]

/-- No weight exceeds the cube of its index: a prime weighs its square. -/
theorem weightOf_le_cube (i : Nat) : weightOf i ≤ i ^ 3 := by
  unfold weightOf
  split
  · rcases Nat.eq_zero_or_pos i with rfl | hpos
    · exact Nat.le_refl _
    · exact Nat.pow_le_pow_right hpos (by decide)
  · exact Nat.le_refl _

/-- **A record is built exactly when its cube fits.** Record `i` is built when `i³ < 2^64`,
holding `i`, `i²`, `i³`, whether `i` is prime and `F (i mod 25)`, whose computation never fails;
it weighs `i²` when `i` is prime and `i³` otherwise. Any other index is the overflow fault of
the workload. -/
theorem record_build_exact (i : Nat) :
    Record.build i = (if i ^ 3 < 2 ^ 64 then .ok (Record.expected i)
      else .error (.overflow "object_operations")) ∧
    Fibonacci.iterative (i % 25) = .ok (fib (i % 25)) ∧
    (Record.expected i).weight = if i.Prime then i ^ 2 else i ^ 3 :=
  ⟨build_eq i, iterative_fibonacciIndex i, expected_weight i⟩

/-! ## The table of records -/

/-- Distinct indices have distinct keys: the digits after `key` spell the index. -/
theorem recordKey_injective : Function.Injective recordKey := by
  intro a b h
  have hchars := congrArg String.toList h
  simp only [recordKey, String.toList_append, Nat.toList_repr] at hchars
  have hdigits : Nat.toDigits 10 a = Nat.toDigits 10 b := List.append_cancel_left hchars
  calc a = Nat.ofDigitChars 10 (Nat.toDigits 10 a) 0 := Nat.ofDigitChars_ten_toDigits.symm
    _ = Nat.ofDigitChars 10 (Nat.toDigits 10 b) 0 := by rw [hdigits]
    _ = b := Nat.ofDigitChars_ten_toDigits

variable {r i : Nat} {table table' : Std.HashMap String Record}

/-- Building records leaves alone every key that none of them has. -/
theorem buildFrom_frame (h : buildFrom r i table = .ok table') {key : String}
    (hkey : ∀ j, i ≤ j → j < i + r → recordKey j ≠ key) : table'[key]? = table[key]? := by
  induction r generalizing i table with
  | zero =>
    cases h
    rfl
  | succ r ih =>
    obtain ⟨record, -, hrest⟩ := bind_eq_ok.mp h
    rw [ih hrest (fun j hij hj => hkey j (by omega) (by omega)), Std.HashMap.getElem?_insert,
      if_neg (by simpa using hkey i (Nat.le_refl i) (by omega))]

/-- **Lookup after building.** Once the records from `i` on are built into a table, the key of
each of their indices finds the record of that index. -/
theorem buildFrom_lookup (h : buildFrom r i table = .ok table') {j : Nat} (hij : i ≤ j)
    (hj : j < i + r) : table'[recordKey j]? = some (Record.expected j) := by
  induction r generalizing i table with
  | zero => omega
  | succ r ih =>
    obtain ⟨record, hbuild, hrest⟩ := bind_eq_ok.mp h
    by_cases hji : j = i
    · subst hji
      -- the later records have other keys, so the entry just made stays
      have hlater : ∀ k, j + 1 ≤ k → k < j + 1 + r → recordKey k ≠ recordKey j :=
        fun k hk _ hkey => by have := recordKey_injective hkey; omega
      rw [buildFrom_frame hrest hlater, Std.HashMap.getElem?_insert_self,
        eq_expected_of_build_eq_ok hbuild]
    · exact ih hrest (by omega) (by omega)

/-- When every cube from `i` on is a word, the records are all built. -/
theorem buildFrom_ok (hcubes : ∀ j, i ≤ j → j < i + r → j ^ 3 < u64Size) :
    ∃ table', buildFrom r i table = .ok table' := by
  induction r generalizing i table with
  | zero => exact ⟨table, rfl⟩
  | succ r ih =>
    rw [buildFrom, build_of_cube_lt (hcubes i (Nat.le_refl i) (by omega)), ok_bind]
    exact ih (fun j hij hj => hcubes j (by omega) (by omega))

/-- When some cube from `i` on leaves the word, building stops with the overflow fault. -/
theorem buildFrom_of_cube_ge {j : Nat} (hij : i ≤ j) (hj : j < i + r)
    (hcube : u64Size ≤ j ^ 3) : buildFrom r i table = .error (.overflow operation) := by
  induction r generalizing i table with
  | zero => omega
  | succ r ih =>
    rw [buildFrom, build_eq]
    split
    · rw [ok_bind]
      -- record `i` fits, so the one that does not comes later
      have hji : j ≠ i := by rintro rfl; omega
      exact ih (by omega) (by omega)
    · rfl

/-! ## The sum of the weights -/

/-- **The second pass.** Looking up records that the table holds and adding their weights onto
a word `sum` is the checked value of the exact total: the partial sums only grow, so the first
one that leaves the word already decides the answer. -/
theorem sumFrom_eq {sum : Nat} (hsum : sum < u64Size)
    (hlookup : ∀ j, i ≤ j → j < i + r → table[recordKey j]? = some (Record.expected j)) :
    sumFrom table r i sum =
      checkU64 operation (sum + ∑ j ∈ Finset.Ico i (i + r), weightOf j) := by
  induction r generalizing i sum with
  | zero => simp [sumFrom, checkU64_of_lt hsum]
  | succ r ih =>
    have hget : table[recordKey i]! = Record.expected i := by
      rw [Std.HashMap.getElem!_eq_get!_getElem?, hlookup i (Nat.le_refl i) (by omega)]
      rfl
    rw [Finset.sum_eq_sum_Ico_succ_bot (by omega), show i + (r + 1) = i + 1 + r by omega,
      sumFrom, hget, expected_weight, addU64_eq_checkU64, ← Nat.add_assoc]
    by_cases hfit : sum + weightOf i < u64Size
    · rw [checkU64_of_lt hfit, ok_bind]
      exact ih hfit fun j hij hj => hlookup j (by omega) (by omega)
    · exact checkU64_overflow_bind hfit (Nat.le_add_right _ _) _

/-- The largest cube inside the word is that of 2642245. -/
theorem cube_lt_u64Size_iff {j : Nat} : j ^ 3 < u64Size ↔ j ≤ 2642245 := by
  have hin : 2642245 ^ 3 < u64Size := by decide
  have hout : u64Size ≤ 2642246 ^ 3 := by decide
  constructor
  · intro hj
    by_contra hbig
    have := Nat.pow_le_pow_left (show 2642246 ≤ j by omega) 3
    omega
  · intro hj
    exact lt_of_le_of_lt (Nat.pow_le_pow_left hj 3) hin

/-- **The sum overflows before any cube does.** If some index below `n` has a cube beyond the
word, so do the weights below `n` together: either that index weighs its cube, or it is an odd
prime, and its even neighbour below is no prime and has a cube beyond the word too. -/
theorem weightSum_overflow_of_cube {n j : Nat} (hj : j < n) (hcube : u64Size ≤ j ^ 3) :
    u64Size ≤ weightSum n := by
  have hbig : 2642246 ≤ j := by
    by_contra hsmall
    exact absurd (cube_lt_u64Size_iff.mpr (by omega)) (Nat.not_lt.mpr hcube)
  obtain ⟨k, hkn, hkp, hkcube⟩ : ∃ k < n, ¬k.Prime ∧ u64Size ≤ k ^ 3 := by
    by_cases hp : j.Prime
    · have hodd : j % 2 = 1 := (hp.eq_two_or_odd).resolve_left (by omega)
      refine ⟨j - 1, by omega, fun hp' => ?_, ?_⟩
      · -- `j - 1` is even and far above 2
        rcases hp'.eq_two_or_odd with h2 | h2 <;> omega
      · exact Nat.le_of_not_lt fun hlt => absurd (cube_lt_u64Size_iff.mp hlt) (by omega)
    · exact ⟨j, hj, hp, hcube⟩
  calc u64Size ≤ k ^ 3 := hkcube
    _ = weightOf k := by rw [weightOf, if_neg hkp]
    _ ≤ weightSum n :=
      Finset.single_le_sum (fun _ _ => Nat.zero_le _) (Finset.mem_range.mpr hkn)

/-- **A record is built while the sum up to it fits**: a cube beyond the word would put the
weights of `0 … i` beyond it too. -/
theorem build_of_weightSum_lt {i : Nat} (hsum : weightSum (i + 1) < u64Size) :
    Record.build i = .ok (Record.expected i) :=
  build_of_cube_lt (Nat.lt_of_not_le fun hcube =>
    absurd (weightSum_overflow_of_cube (Nat.lt_add_one i) hcube) (Nat.not_le.mpr hsum))

/-- **The weighing workload is the checked sum of the weights.** -/
theorem totalWeight_eq (n : Nat) : totalWeight n = checkU64 operation (weightSum n) := by
  by_cases hcubes : ∀ j < n, j ^ 3 < u64Size
  · obtain ⟨table, htable⟩ : ∃ table, buildFrom n 0 ∅ = .ok table :=
      buildFrom_ok fun j _ hj => hcubes j (by omega)
    rw [totalWeight, htable, ok_bind,
      sumFrom_eq (by decide) fun j hij hj => buildFrom_lookup htable hij hj, Nat.zero_add,
      Nat.zero_add, weightSum, Finset.range_eq_Ico]
  · -- a cube leaves the word, so the first pass stops, and the sum is beyond the word as well
    simp only [not_forall, Nat.not_lt] at hcubes
    obtain ⟨j, hj, hcube⟩ := hcubes
    rw [totalWeight, buildFrom_of_cube_ge (Nat.zero_le j) (by omega) hcube, error_bind,
      checkU64_of_le (weightSum_overflow_of_cube hj hcube)]

/-- The weighing of `n` records succeeds whenever `n` cubes of `n` fit in the word. -/
theorem totalWeight_ok {n : Nat} (h : n * (n * n * n) < u64Size) :
    ∃ total, totalWeight n = .ok total := by
  have hbound : weightSum n ≤ n * (n * n * n) := by
    calc weightSum n ≤ ∑ _i ∈ Finset.range n, n ^ 3 :=
          Finset.sum_le_sum fun i hi =>
            le_trans (weightOf_le_cube i)
              (Nat.pow_le_pow_left (Nat.le_of_lt (Finset.mem_range.mp hi)) 3)
      _ = n * (n * n * n) := by rw [Finset.sum_const, Finset.card_range, smul_eq_mul, pow_three']
  exact ⟨weightSum n, by rw [totalWeight_eq, checkU64_of_lt (by omega)]⟩

/-- **The weighing workload.** For every `n` whose table can be laid out, the workload answers
the sum of the weights of `0 … n - 1` (`i²` for a prime `i`, `i³` otherwise) when it is below
`2^64`, and the overflow fault otherwise; a larger `n` halts before any record is built. Along
the way, a table built for `n` records gives back the record of each index under its key, keys
of distinct indices differ, and a record is always built while the sum up to it fits. -/
theorem objectOperations_weight_sum (n : Nat) :
    run n = (if tableFits n then
        .ok (if weightSum n < 2 ^ 64 then .ok (weightSum n)
          else .error (.overflow "object_operations"))
      else .error ⟨"Hash table capacity overflow"⟩) ∧
    (∀ table, buildFrom n 0 ∅ = .ok table →
      ∀ i < n, table[recordKey i]? = some (Record.expected i)) ∧
    (∀ i, weightSum (i + 1) < 2 ^ 64 → Record.build i = .ok (Record.expected i)) ∧
    Function.Injective recordKey := by
  refine ⟨?_, fun table htable i hi => buildFrom_lookup htable (Nat.zero_le i) (by omega),
    fun i hsum => build_of_weightSum_lt (by rwa [u64Size_eq_two_pow]), recordKey_injective⟩
  rw [run, totalWeight_eq, checkU64, u64Size_eq_two_pow]
  rfl

/-- The largest iteration count is beyond any table: the workload halts instead of answering a
value or the overflow fault. -/
theorem run_max_halts : run 18446744073709551615 = .error ⟨"Hash table capacity overflow"⟩ := by
  decide

end Records

end CpuBench
