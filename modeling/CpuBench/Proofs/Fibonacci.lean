import Mathlib.Data.Nat.Fib.Basic
import CpuBench.Workload.Fibonacci
import CpuBench.Proofs.Outcome

/-!
# Both Fibonacci workloads compute `F n` while it fits a word

`fib` is Mathlib's `Nat.fib`, so it is monotone, and `F 93` is the last Fibonacci number below
`2^64`. Each workload is the checked value of `F n`:

* `checkU64_overflow_bind` — a sum that leaves the word is the fault of every larger sum;
* `walk_fib` — the pair `(F k, F (k + 1))` is the invariant of the loop; the sums only grow, so
  the first sum that leaves the word already decides the answer;
* `recursive_eq_checkU64` — by the recursion of `recursive`: when the call at `n + 1` fails,
  `F (n + 2)` does not fit either, so its fault is the right answer for the whole tree.

`fibonacci_workloads_exact` puts both together with the boundary at 93.
-/

namespace CpuBench.Fibonacci

open Word

/-- The sequence is Mathlib's `Nat.fib`. -/
theorem fib_eq_natFib (n : Nat) : fib n = Nat.fib n := by
  induction n using fib.induct with
  | case1 => rfl
  | case2 => rfl
  | case3 n ih ih' =>
    rw [fib, ih, ih', Nat.fib_add_two, Nat.add_comm]

/-- The defining equation, with the smaller term first as checked sums take it. -/
theorem fib_add_two (n : Nat) : fib n + fib (n + 1) = fib (n + 2) := by
  rw [fib, Nat.add_comm]

/-- The sequence never decreases, so the first sum that leaves the word is followed by larger
ones. -/
theorem fib_mono : Monotone fib := by
  intro a b hab
  rw [fib_eq_natFib, fib_eq_natFib]
  exact Nat.fib_mono hab

/-- **The boundary.** `F n` is an unsigned word exactly up to `n = 93`. -/
theorem fib_lt_u64Size_iff {n : Nat} : fib n < u64Size ↔ n ≤ 93 := by
  have h93 : fib 93 < u64Size := by
    rw [fib_eq_natFib]
    decide
  have h94 : u64Size ≤ fib 94 := by
    rw [fib_eq_natFib]
    decide
  constructor
  · intro hfit
    by_contra hn
    have hgrow : fib 94 ≤ fib n := fib_mono (by omega)
    omega
  · intro hn
    exact lt_of_le_of_lt (fib_mono hn) h93

/-- Once a checked value overflows, the rest of the block does not matter: it is the fault of
every larger value. -/
theorem checkU64_overflow_bind {operation : String} {x y : Nat} (hx : ¬x < u64Size)
    (hxy : x ≤ y) (f : Nat → Except BenchError Nat) :
    (checkU64 operation x >>= f) = checkU64 operation y := by
  have hy : u64Size ≤ y := le_trans (Nat.le_of_not_lt hx) hxy
  rw [checkU64_of_le (Nat.le_of_not_lt hx), error_bind, checkU64_of_le hy]

/-! ## The loop -/

/-- **Invariant of `walk`.** From the pair `(F k, F (k + 1))`, `r` more checked steps answer
`F (k + 1 + r)` when it is a word and the overflow fault when it is not. -/
theorem walk_fib (r k : Nat) (hk : fib (k + 1) < u64Size) :
    walk r (fib k) (fib (k + 1)) = checkU64 iterativeOperation (fib (k + 1 + r)) := by
  induction r generalizing k with
  | zero => simp [walk, checkU64_of_lt hk]
  | succ r ih =>
    rw [walk, addU64_eq_checkU64, fib_add_two]
    by_cases hfit : fib (k + 2) < u64Size
    · rw [checkU64_of_lt hfit, ok_bind, ih (k + 1) hfit]
      congr 2
      omega
    · -- the first sum already overflows, and the last one would be larger still
      exact checkU64_overflow_bind hfit (fib_mono (show k + 2 ≤ k + 1 + (r + 1) by omega)) _

/-- The iterative workload is the checked value of `F n`. -/
theorem iterative_eq_checkU64 (n : Nat) : iterative n = checkU64 iterativeOperation (fib n) := by
  have hone : fib 1 < u64Size := by decide
  match n with
  | 0 => rw [iterative, checkU64_of_lt (by decide)]; rfl
  | 1 => rw [iterative, checkU64_of_lt hone]; rfl
  | n + 2 =>
    rw [iterative]
    have hwalk := walk_fib (n + 1) 0 hone
    rw [show 0 + 1 + (n + 1) = n + 2 by omega] at hwalk
    exact hwalk

/-! ## The call tree -/

/-- The recursive workload is the checked value of `F n`: an overflow anywhere in the call tree
is the overflow of the whole. -/
theorem recursive_eq_checkU64 (n : Nat) : recursive n = checkU64 recursiveOperation (fib n) := by
  induction n using recursive.induct with
  | case1 => rw [recursive, checkU64_of_lt (by decide)]; rfl
  | case2 => rw [recursive, checkU64_of_lt (by decide)]; rfl
  | case3 n ih ih' =>
    rw [recursive, ih]
    by_cases hfit : fib (n + 1) < u64Size
    · -- both calls return their values, since `F n ≤ F (n + 1)`
      have hfit' : fib n < u64Size := lt_of_le_of_lt (fib_mono (Nat.le_succ n)) hfit
      rw [checkU64_of_lt hfit, ok_bind, ih', checkU64_of_lt hfit', ok_bind,
        addU64_eq_checkU64]
      rfl
    · -- the first call fails, and `F (n + 2)` is larger still
      exact checkU64_overflow_bind hfit (fib_mono (Nat.le_succ (n + 1))) _

/-- **Both workloads are exact.** For every `n`, each workload answers `F n` when `n ≤ 93` and
its own overflow fault from 94 on; so the two agree on every `n` up to the name of the fault. -/
theorem fibonacci_workloads_exact (n : Nat) :
    iterative n =
        (if n ≤ 93 then .ok (fib n) else .error (.overflow iterativeOperation)) ∧
      recursive n =
        (if n ≤ 93 then .ok (fib n) else .error (.overflow recursiveOperation)) ∧
      (recursive n).toOption = (iterative n).toOption := by
  rw [iterative_eq_checkU64, recursive_eq_checkU64]
  by_cases hn : n ≤ 93
  · have hfit : fib n < u64Size := fib_lt_u64Size_iff.mpr hn
    simp only [checkU64_of_lt hfit, if_pos hn, and_self]
  · have hover : u64Size ≤ fib n := Nat.le_of_not_lt (mt fib_lt_u64Size_iff.mp hn)
    simp only [checkU64_of_le hover, if_neg hn, true_and]
    rfl

end CpuBench.Fibonacci
