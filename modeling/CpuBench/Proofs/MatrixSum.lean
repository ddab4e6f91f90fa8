import Mathlib.Algebra.BigOperators.Ring.Finset
import Mathlib.Algebra.Order.BigOperators.Group.LocallyFinite
import Mathlib.Order.Interval.Finset.Nat
import Mathlib.Tactic.LinearCombination
import CpuBench.Proofs.Matrix

/-!
# The sum of the product's entries

Every checked step of the product keeps its exact value or is the overflow fault, and a fault
stops all that follows. So the workload answers the exact sum of the entries of `A · B` or the
overflow fault, and nothing else (`productSum_exact_or_overflow`). That sum has a closed form:

* `rowSum_mul_twelve` — every row of `A · B` sums to `n² (n² − 1) / 12`, whatever its index, so
  all entries sum to `n³ (n² − 1) / 12` (`totalValue_eq`);
* `rowsFrom_of_le` — up to size 10000 nothing overflows: after `i` rows the running sum is
  exactly `i` row totals, and the next row moves it by at most `2 n⁴` on the way, so it stays a
  signed word even though its partial sums rise above the final total.
-/

namespace CpuBench

/-- One more than the greatest signed word is `2 ^ 63`. -/
theorem Word.i64Bound_eq_two_pow : Word.i64Bound = 2 ^ 63 := by
  simp [Word.i64Bound]

namespace Matrix

open Word Finset

/-- The exact entry `(i, j)` of the product of the size-`n` factors. -/
def entryValue (n i j : Nat) : Int :=
  ∑ k ∈ range n, left i k * right k j

/-- The exact sum of all entries of the product of the size-`n` factors. -/
def totalValue (n : Nat) : Int :=
  ∑ i ∈ range n, ∑ j ∈ range n, entryValue n i j

/-- The sum of one row of the product of the size-`n` factors, the same for every row. -/
def rowTotal (n : Nat) : Int :=
  (n : Int) ^ 2 * ((n : Int) ^ 2 - 1) / 12

/-! ## Exact or overflow -/

/-- A checked signed result is the value itself or the overflow fault. -/
theorem checkI64_ok_or_overflow (x : Int) :
    checkI64 operation x = .ok x ∨ checkI64 operation x = .error (.overflow operation) := by
  unfold checkI64
  split
  · exact .inl rfl
  · exact .inr rfl

/-- **Exact or overflow.** A checked accumulation whose every step adds its exact term or is the
overflow fault ends with the exact total or the overflow fault. -/
theorem accumulate_exact_or_overflow (loop : Nat → Nat → Int → Except BenchError Int)
    (step : Nat → Int → Except BenchError Int) (term : Nat → Int)
    (hzero : ∀ k acc, loop 0 k acc = .ok acc)
    (hsucc : ∀ r k acc, loop (r + 1) k acc = step k acc >>= loop r (k + 1))
    (hstep : ∀ k acc,
      step k acc = .ok (acc + term k) ∨ step k acc = .error (.overflow operation))
    (r k : Nat) (acc : Int) :
    loop r k acc = .ok (acc + ∑ m ∈ Ico k (k + r), term m) ∨
      loop r k acc = .error (.overflow operation) := by
  induction r generalizing k acc with
  | zero => exact .inl (by simp [hzero])
  | succ r ih =>
    rw [hsucc]
    rcases hstep k acc with hok | herr
    · rw [hok, ok_bind, sum_eq_sum_Ico_succ_bot (by omega),
        show k + (r + 1) = k + 1 + r by omega, ← add_assoc]
      exact ih (k + 1) (acc + term k)
    · rw [herr, error_bind]
      exact .inr rfl

/-- An entry is its exact value or the overflow fault. -/
theorem entry_exact_or_overflow (n i j : Nat) :
    entry n i j = .ok (entryValue n i j) ∨ entry n i j = .error (.overflow operation) := by
  have h := accumulate_exact_or_overflow (dotFrom i j)
    (fun k acc => mulI64 operation (left i k) (right k j) >>= addI64 operation acc)
    (fun k => left i k * right k j) (fun _ _ => rfl) (fun r k acc => by rw [bind_assoc]; rfl)
    (fun k acc => by
      rw [mulI64_eq_checkI64]
      rcases checkI64_ok_or_overflow (left i k * right k j) with hok | herr
      · rw [hok, ok_bind, addI64_eq_checkI64]
        exact checkI64_ok_or_overflow _
      · rw [herr, error_bind]
        exact .inr rfl)
    n 0 0
  simp only [zero_add, Nat.Ico_zero_eq_range] at h
  exact h

/-- A row added onto `acc` gives `acc` plus the exact entries of the row, or the overflow
fault. -/
theorem rowFrom_exact_or_overflow (n i : Nat) (acc : Int) :
    rowFrom n i n 0 acc = .ok (acc + ∑ j ∈ range n, entryValue n i j) ∨
      rowFrom n i n 0 acc = .error (.overflow operation) := by
  have h := accumulate_exact_or_overflow (rowFrom n i)
    (fun j acc => entry n i j >>= addI64 operation acc) (entryValue n i) (fun _ _ => rfl)
    (fun r j acc => by rw [bind_assoc]; rfl)
    (fun j acc => by
      rcases entry_exact_or_overflow n i j with hok | herr
      · rw [hok, ok_bind, addI64_eq_checkI64]
        exact checkI64_ok_or_overflow _
      · rw [herr, error_bind]
        exact .inr rfl)
    n 0 acc
  simp only [zero_add, Nat.Ico_zero_eq_range] at h
  exact h

/-- **The workload answers the exact sum or the overflow fault**, for every size. -/
theorem productSum_exact_or_overflow (n : Nat) :
    productSum n = .ok (totalValue n) ∨ productSum n = .error (.overflow operation) := by
  unfold productSum
  split
  · have h := accumulate_exact_or_overflow (rowsFrom n) (fun i acc => rowFrom n i n 0 acc)
      (fun i => ∑ j ∈ range n, entryValue n i j) (fun _ _ => rfl) (fun _ _ _ => rfl)
      (rowFrom_exact_or_overflow n) n 0 0
    simp only [zero_add, Nat.Ico_zero_eq_range] at h
    exact h
  · exact .inr rfl

/-! ## The closed form -/

/-- Twice the sum of `0, 1, …, n - 1`. -/
theorem sum_range_mul_two (n : Nat) : (∑ k ∈ range n, (k : Int)) * 2 = n * (n - 1) := by
  induction n with
  | zero => simp
  | succ n ih =>
    rw [sum_range_succ, add_mul, ih]
    push_cast
    ring

/-- Six times the sum of the squares of `0, 1, …, n - 1`. -/
theorem sum_range_sq_mul_six (n : Nat) :
    (∑ k ∈ range n, (k : Int) ^ 2) * 6 = n * (n - 1) * (2 * n - 1) := by
  induction n with
  | zero => simp
  | succ n ih =>
    rw [sum_range_succ, add_mul, ih]
    push_cast
    ring

/-- An entry, through the sums of the indices and of their squares. -/
theorem entryValue_eq (n i j : Nat) :
    entryValue n i j = i * ∑ k ∈ range n, (k : Int) - n * i * j +
      ∑ k ∈ range n, (k : Int) ^ 2 - j * ∑ k ∈ range n, (k : Int) := by
  have hterm : ∀ k ∈ range n,
      left i k * right k j = (i * k - i * j + k ^ 2 - j * k : Int) := fun k _ => by
    unfold left right
    ring
  rw [entryValue, sum_congr rfl hterm]
  simp only [sum_sub_distrib, sum_add_distrib, ← mul_sum, sum_const, card_range, nsmul_eq_mul]
  ring

/-- **Every row sums to `n² (n² − 1) / 12`**, whatever its index: twelve times its sum is
`n² (n² − 1)`. -/
theorem rowSum_mul_twelve (n i : Nat) :
    12 * ∑ j ∈ range n, entryValue n i j = (n : Int) ^ 2 * ((n : Int) ^ 2 - 1) := by
  simp only [entryValue_eq, sum_sub_distrib, sum_add_distrib, ← mul_sum, ← sum_mul, sum_const,
    card_range, nsmul_eq_mul]
  -- what is left is `12 (n Σk² − (Σk)²)`, from the two sums' closed forms
  linear_combination (2 * (n : Int)) * sum_range_sq_mul_six n -
    (6 * ∑ k ∈ range n, (k : Int) + 3 * n * (n - 1)) * sum_range_mul_two n

/-- Every row sums to the row total. -/
theorem rowSum_eq (n i : Nat) : ∑ j ∈ range n, entryValue n i j = rowTotal n := by
  rw [rowTotal, ← rowSum_mul_twelve n i, Int.mul_ediv_cancel_left _ (by decide)]

/-- All entries together are `n` row totals. -/
theorem totalValue_eq_mul_rowTotal (n : Nat) : totalValue n = n * rowTotal n := by
  rw [totalValue, sum_congr rfl fun i _ => rowSum_eq n i, sum_const, card_range, nsmul_eq_mul]

/-- **The closed form.** All entries of the product of the size-`n` factors sum to
`n³ (n² − 1) / 12`. -/
theorem totalValue_eq (n : Nat) : totalValue n = (n : Int) ^ 3 * ((n : Int) ^ 2 - 1) / 12 := by
  have htwelve : 12 * totalValue n = (n : Int) ^ 3 * ((n : Int) ^ 2 - 1) := by
    rw [totalValue, mul_sum, sum_congr rfl fun i _ => rowSum_mul_twelve n i, sum_const,
      card_range, nsmul_eq_mul]
    ring
  rw [← htwelve, Int.mul_ediv_cancel_left _ (by decide)]

/-! ## No overflow up to size 10000 -/

/-- Twelve row totals are `n² (n² − 1)`. -/
theorem rowTotal_mul_twelve (n : Nat) :
    12 * rowTotal n = (n : Int) ^ 2 * ((n : Int) ^ 2 - 1) := by
  rw [← rowSum_eq n 0, rowSum_mul_twelve]

/-- A row total is never negative. -/
theorem rowTotal_nonneg (n : Nat) : 0 ≤ rowTotal n := by
  have htwelve := rowTotal_mul_twelve n
  have hsq : (0 : Int) ≤ (n : Int) ^ 2 * ((n : Int) ^ 2 - 1) := by
    rcases Nat.eq_zero_or_pos n with rfl | hpos
    · simp
    · have : (1 : Int) ≤ (n : Int) ^ 2 := one_le_pow₀ (by exact_mod_cast hpos)
      nlinarith
  omega

/-- Up to size 10000, `i` row totals and one more row's swing of `2 n⁴` stay a signed word. -/
theorem rows_fit {n i : Nat} (hn : n ≤ 10000) (hi : i < n) :
    (i : Int) * rowTotal n + n * (n * (2 * n * n)) < i64Bound := by
  have htwelve := rowTotal_mul_twelve n
  have hN : (n : Int) ≤ 10000 := by exact_mod_cast hn
  have hI : (i : Int) ≤ n - 1 := by omega
  have hI0 : (0 : Int) ≤ i := Int.natCast_nonneg i
  -- one row total is at most `n⁴ / 12`, so `i` of them at most `(n - 1) n⁴ / 12`
  have hrow : (n : Int) ^ 2 * ((n : Int) ^ 2 - 1) ≤ (n : Int) ^ 4 := by nlinarith
  have hrow0 : (0 : Int) ≤ (n : Int) ^ 2 * ((n : Int) ^ 2 - 1) := by
    have := rowTotal_nonneg n
    omega
  have hrows : (i : Int) * ((n : Int) ^ 2 * ((n : Int) ^ 2 - 1)) ≤ (n - 1) * (n : Int) ^ 4 :=
    mul_le_mul hI hrow hrow0 (by omega)
  have hpow : (n : Int) ^ 4 ≤ 10000 ^ 4 := pow_le_pow_left₀ (by omega) hN 4
  have hlast : ((n : Int) + 23) * (n : Int) ^ 4 ≤ 10023 * 10000 ^ 4 :=
    mul_le_mul (by omega) hpow (by positivity) (by norm_num)
  rw [i64Bound_eq_two_pow]
  nlinarith

/-- **The rows up to size 10000.** After `i` rows the running sum is `i` row totals, and the
remaining rows are added without a fault, ending at `n` row totals. -/
theorem rowsFrom_of_le {n : Nat} (hn : n ≤ 10000) (r i : Nat) (hri : i + r = n) :
    rowsFrom n r i (i * rowTotal n) = .ok (n * rowTotal n) := by
  induction r generalizing i with
  | zero =>
    rw [show i = n by omega]
    rfl
  | succ r ih =>
    have hrow0 : (0 : Int) ≤ (i : Int) * rowTotal n :=
      mul_nonneg (Int.natCast_nonneg i) (rowTotal_nonneg n)
    obtain ⟨v, hv, -⟩ := rowFrom_bounded (show i < n by omega) (by omega) (le_refl _)
      (rows_fit hn (show i < n by omega))
    -- the row succeeded, so it added exactly one row total
    have hvalue : v = (i + 1 : Nat) * rowTotal n := by
      rcases rowFrom_exact_or_overflow n i (i * rowTotal n) with hok | herr
      · rw [hok, rowSum_eq] at hv
        rw [← Except.ok.inj hv]
        push_cast
        ring
      · rw [herr] at hv
        cases hv
    rw [rowsFrom, hv, hvalue, ok_bind]
    exact ih (i + 1) (by omega)

/-- Up to size 10000 the workload answers the exact sum of the entries. -/
theorem productSum_of_le {n : Nat} (hn : n ≤ 10000) : productSum n = .ok (totalValue n) := by
  have hsize : (n : Int) < i64Bound := by
    rw [i64Bound_eq_two_pow]
    omega
  have hrows := rowsFrom_of_le hn n 0 (Nat.zero_add n)
  rw [Nat.cast_zero, zero_mul] at hrows
  rw [productSum, if_pos hsize, hrows, totalValue_eq_mul_rowTotal]

/-! ## The workload as a run -/

/-- A size that is a signed word halts exactly when its rows cannot be laid out. -/
theorem run_of_lt {n : Nat} (hn : (n : Int) < i64Bound) :
    run n = if rowsFit n then .ok (productSum n) else .error ⟨"capacity overflow"⟩ := by
  cases h : rowsFit n <;> simp [run, hn, h]

/-- Sizes up to 10000 can be laid out. -/
theorem rowsFit_of_le {n : Nat} (hn : n ≤ 10000) : rowsFit n = true := by
  have hbound : 10000 * 24 ≤ Nat.pow 2 63 - 8 := by decide
  simp only [rowsFit, decide_eq_true_eq]
  omega

/-- **The matrix workload.** Up to size 10000 it answers `n³ (n² − 1) / 12`, the sum of all
entries of `A · B` for `A i j = i + j` and `B i j = i − j`. Up to size `2^62`, whenever its rows
can be laid out, it answers that sum or the overflow fault, never another value; when they
cannot, it halts with a capacity overflow. -/
theorem matrixMultiply_closed_form :
    (∀ n ≤ 10000, run n = .ok (.ok ((n : Int) ^ 3 * ((n : Int) ^ 2 - 1) / 12))) ∧
    (∀ n ≤ 2 ^ 62, rowsFit n = true →
      run n = .ok (.ok ((n : Int) ^ 3 * ((n : Int) ^ 2 - 1) / 12)) ∨
        run n = .ok (.error (.overflow "matrix_multiply"))) ∧
    (∀ n ≤ 2 ^ 62, rowsFit n = false → run n = .error ⟨"capacity overflow"⟩) := by
  have hword : ∀ n : Nat, n ≤ 2 ^ 62 → (n : Int) < i64Bound := fun n hn => by
    rw [i64Bound_eq_two_pow]
    have : (n : Int) ≤ 2 ^ 62 := by exact_mod_cast hn
    omega
  refine ⟨fun n hn => ?_, fun n hn hfit => ?_, fun n hn hfit => ?_⟩
  · rw [run_of_lt (hword n (by omega)), rowsFit_of_le hn, if_pos rfl, productSum_of_le hn,
      totalValue_eq]
  · rw [run_of_lt (hword n hn), hfit, if_pos rfl, ← totalValue_eq]
    rcases productSum_exact_or_overflow n with hok | herr
    · exact .inl (by rw [hok])
    · exact .inr (by rw [herr]; rfl)
  · rw [run_of_lt (hword n hn), hfit]
    rfl

/-- Size `2^62` is a signed word whose `i + j` never wraps, but its rows cannot be laid out: the
workload halts instead of answering a value or the overflow fault. -/
theorem run_two_pow_62_halts : run (2 ^ 62) = .error ⟨"capacity overflow"⟩ := by
  decide

end Matrix

end CpuBench
