import Mathlib.Tactic.Linarith
import Mathlib.Tactic.Positivity
import Mathlib.Tactic.Ring
import CpuBench.Workload.Matrix
import CpuBench.Proofs.Outcome

/-!
# Small matrix products never overflow

The product workload is three nested checked loops: a dot product adds `n` products, a row adds
`n` dot products, and the whole sum adds `n` rows. Each loop moves its accumulator by a bounded
amount per step, so one statement about such loops, `accumulate_bounded`, bounds all three in
turn: a product lies within `2 n²` of zero, an entry within `2 n³`, a row within `2 n⁴` and the
whole sum within `2 n⁵`. While that last bound is a signed word, no step overflows
(`productSum_ok`).
-/

namespace CpuBench.Matrix

open Word

/-- **Bounded accumulation.** A loop whose `r` steps each succeed and move the accumulator by at
most `d`, as long as the accumulator stays a word, ends within `r * d` of where it started: every
partial sum stays a word when the last bound does. -/
theorem accumulate_bounded (loop : Nat → Nat → Int → Except BenchError Int)
    (step : Nat → Int → Except BenchError Int) {d : Int} (hd : 0 ≤ d)
    (hzero : ∀ k acc, loop 0 k acc = .ok acc)
    (hsucc : ∀ r k acc, loop (r + 1) k acc = step k acc >>= loop r (k + 1))
    (r k : Nat) (acc A : Int)
    (hstep : ∀ k' acc A, k ≤ k' → k' < k + r → -A ≤ acc → acc ≤ A → A + d < i64Bound →
      ∃ acc', step k' acc = .ok acc' ∧ -(A + d) ≤ acc' ∧ acc' ≤ A + d)
    (hlo : -A ≤ acc) (hhi : acc ≤ A) (hfit : A + r * d < i64Bound) :
    ∃ v, loop r k acc = .ok v ∧ -(A + r * d) ≤ v ∧ v ≤ A + r * d := by
  induction r generalizing k acc A with
  | zero => exact ⟨acc, hzero k acc, by simpa using hlo, by simpa using hhi⟩
  | succ r ih =>
    have hrd : 0 ≤ (r : Int) * d := mul_nonneg (Int.natCast_nonneg r) hd
    have hsplit : A + ((r + 1 : Nat) : Int) * d = (A + d) + r * d := by
      push_cast
      ring
    rw [hsplit] at hfit ⊢
    obtain ⟨acc', hacc', hlo', hhi'⟩ := hstep k acc A (Nat.le_refl k) (by omega) hlo hhi
      (by omega)
    obtain ⟨v, hv, hvlo, hvhi⟩ := ih (k + 1) acc' (A + d)
      (fun k' acc A h1 h2 => hstep k' acc A (by omega) (by omega)) hlo' hhi' hfit
    exact ⟨v, by rw [hsucc, hacc', ok_bind, hv], hvlo, hvhi⟩

/-- One more factor `n` does not shrink a nonnegative multiple of `n`: both sides vanish when
`n = 0`. -/
theorem natCast_mul_le_mul_self {x : Int} (hx : 0 ≤ x) (n : Nat) :
    (n : Int) * x ≤ n * (n * x) := by
  rcases Nat.eq_zero_or_pos n with rfl | hpos
  · simp
  · exact le_mul_of_one_le_left (mul_nonneg (Int.natCast_nonneg n) hx) (by exact_mod_cast hpos)

/-- Each product of a size-`n` dot product lies within `2 n²` of zero. -/
theorem term_bounded {n i j k : Nat} (hi : i < n) (hj : j < n) (hk : k < n) :
    -(2 * n * n : Int) ≤ left i k * right k j ∧ left i k * right k j ≤ 2 * n * n := by
  unfold left right
  have hn : (0 : Int) ≤ n := Int.natCast_nonneg n
  have ha : (0 : Int) ≤ i + k := by omega
  have ha' : (i : Int) + k ≤ 2 * n := by omega
  have hb : -(n : Int) ≤ k - j := by omega
  have hb' : (k : Int) - j ≤ n := by omega
  constructor <;> nlinarith

/-- An entry of the size-`n` product is computed without overflow and lies within `2 n³` of
zero, whenever `2 n³` is a signed word. -/
theorem entry_bounded {n i j : Nat} (hi : i < n) (hj : j < n)
    (hfit : (n : Int) * (2 * n * n) < i64Bound) :
    ∃ e, entry n i j = .ok e ∧ -(n * (2 * n * n) : Int) ≤ e ∧ e ≤ n * (2 * n * n) := by
  have hd : (0 : Int) ≤ 2 * n * n := by positivity
  have hloop := accumulate_bounded (dotFrom i j)
    (fun k acc => mulI64 operation (left i k) (right k j) >>= addI64 operation acc) hd
    (fun _ _ => rfl) (fun r k acc => by rw [bind_assoc]; rfl) n 0 0 0
    (fun k' acc A _ hk' hlo hhi hA => by
      obtain ⟨tlo, thi⟩ := term_bounded hi hj (show k' < n by omega)
      refine ⟨acc + left i k' * right k' j, ?_, by omega, by omega⟩
      rw [mulI64_eq_checkI64, checkI64_of_bounded (by omega) tlo thi, ok_bind,
        addI64_eq_checkI64, checkI64_of_bounded hA (by omega) (by omega)])
    (by omega) (by omega) (by simpa using hfit)
  simpa [entry] using hloop

/-- A row of the size-`n` product, added onto an accumulator within `A` of zero, is computed
without overflow and leaves it within `A + 2 n⁴`, whenever that is a signed word. -/
theorem rowFrom_bounded {n i : Nat} (hi : i < n) {acc A : Int} (hlo : -A ≤ acc) (hhi : acc ≤ A)
    (hfit : A + (n : Int) * (n * (2 * n * n)) < i64Bound) :
    ∃ v, rowFrom n i n 0 acc = .ok v ∧
      -(A + n * (n * (2 * n * n)) : Int) ≤ v ∧ v ≤ A + n * (n * (2 * n * n)) := by
  have hd : (0 : Int) ≤ n * (2 * n * n) := by positivity
  have hA : 0 ≤ A := by omega
  have hentry : (n : Int) * (2 * n * n) < i64Bound := by
    have hle := natCast_mul_le_mul_self (show (0 : Int) ≤ 2 * n * n by positivity) n
    omega
  exact accumulate_bounded (rowFrom n i)
    (fun j acc => entry n i j >>= addI64 operation acc) hd
    (fun _ _ => rfl) (fun r j acc => by rw [bind_assoc]; rfl) n 0 acc A
    (fun j' acc A _ hj' hlo hhi hA => by
      obtain ⟨e, he, helo, hehi⟩ := entry_bounded hi (show j' < n by omega) hentry
      refine ⟨acc + e, ?_, by omega, by omega⟩
      rw [he, ok_bind, addI64_eq_checkI64, checkI64_of_bounded hA (by omega) (by omega)])
    hlo hhi hfit

/-- **No overflow in small products.** The checked sum of all entries of the product of the
size-`n` factors is computed without a fault whenever `2 n⁵` is a signed word. -/
theorem productSum_ok {n : Nat} (hfit : (n : Int) * (n * (n * (2 * n * n))) < i64Bound) :
    ∃ v, productSum n = .ok v := by
  have hd : (0 : Int) ≤ n * (n * (2 * n * n)) := by positivity
  have hrow : (0 : Int) + n * (n * (2 * n * n)) < i64Bound := by
    have hle := natCast_mul_le_mul_self (show (0 : Int) ≤ n * (2 * n * n) by positivity) n
    omega
  have hsize : (n : Int) < i64Bound := by
    rcases Nat.eq_zero_or_pos n with rfl | hpos
    · unfold i64Bound
      simp
    · have h1 : (1 : Int) ≤ n := by exact_mod_cast hpos
      have h2 : (1 : Int) ≤ 2 * n * n := one_le_mul_of_one_le_of_one_le (by omega) h1
      have hone : (1 : Int) ≤ n * (n * (2 * n * n)) :=
        one_le_mul_of_one_le_of_one_le h1 (one_le_mul_of_one_le_of_one_le h1 h2)
      have hle : (n : Int) ≤ n * (n * (n * (2 * n * n))) :=
        le_mul_of_one_le_right (Int.natCast_nonneg n) hone
      omega
  obtain ⟨v, hv, -⟩ := accumulate_bounded (rowsFrom n) (fun i acc => rowFrom n i n 0 acc) hd
    (fun _ _ => rfl) (fun _ _ _ => rfl) n 0 0 0
    (fun i' acc A _ hi' hlo hhi hA => rowFrom_bounded (show i' < n by omega) hlo hhi hA)
    (by omega) (by omega) (by simpa using hfit)
  exact ⟨v, by rw [productSum, if_pos hsize, hv]⟩

end CpuBench.Matrix
