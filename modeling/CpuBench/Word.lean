import CpuBench.Fault

/-!
# Checked 64-bit words

Workload values are natural numbers and integers that must stay inside the range of a 64-bit
word. Each step is checked: it either yields the exact result, which then lies in range, or the
overflow fault of the workload that asked for it. Nothing ever wraps around.

* `addU64`, `mulU64` — unsigned words, `0 ≤ x < 2^64`;
* `addI64`, `mulI64` — signed words, `-2^63 ≤ x < 2^63`.
-/

namespace CpuBench.Word

/-- The number of unsigned 64-bit words: every unsigned word is below it. -/
def u64Size : Nat := Nat.pow 2 64

/-- The least signed 64-bit word. -/
def i64Min : Int := -(Nat.pow 2 63 : Int)

/-- One more than the greatest signed 64-bit word. -/
def i64Bound : Int := (Nat.pow 2 63 : Int)

/-- An unsigned result is kept exactly when it is a word. -/
def checkU64 (operation : String) (x : Nat) : Except BenchError Nat :=
  if x < u64Size then .ok x else .error (.overflow operation)

/-- A signed result is kept exactly when it is a word. -/
def checkI64 (operation : String) (x : Int) : Except BenchError Int :=
  if i64Min ≤ x ∧ x < i64Bound then .ok x else .error (.overflow operation)

/-- Checked unsigned addition. -/
def addU64 (operation : String) (a b : Nat) : Except BenchError Nat :=
  checkU64 operation (a + b)

/-- Checked unsigned multiplication. -/
def mulU64 (operation : String) (a b : Nat) : Except BenchError Nat :=
  checkU64 operation (a * b)

/-- Checked signed addition. -/
def addI64 (operation : String) (a b : Int) : Except BenchError Int :=
  checkI64 operation (a + b)

/-- Checked signed multiplication. -/
def mulI64 (operation : String) (a b : Int) : Except BenchError Int :=
  checkI64 operation (a * b)

/-- A value below `2^64` is kept as it is. -/
@[simp] theorem checkU64_of_lt {operation : String} {x : Nat} (h : x < u64Size) :
    checkU64 operation x = .ok x :=
  if_pos h

/-- A value of `2^64` or more is the overflow fault of the operation. -/
@[simp] theorem checkU64_of_le {operation : String} {x : Nat} (h : u64Size ≤ x) :
    checkU64 operation x = .error (.overflow operation) :=
  if_neg (Nat.not_lt.mpr h)

/-- A checked unsigned sum is the check of the exact sum. -/
theorem addU64_eq_checkU64 (operation : String) (a b : Nat) :
    addU64 operation a b = checkU64 operation (a + b) :=
  rfl

/-- A checked unsigned product is the check of the exact product. -/
theorem mulU64_eq_checkU64 (operation : String) (a b : Nat) :
    mulU64 operation a b = checkU64 operation (a * b) :=
  rfl

/-- A value within `bound` of zero is a signed word when `bound` is below `2^63`, and is kept. -/
theorem checkI64_of_bounded {operation : String} {x bound : Int} (hbound : bound < i64Bound)
    (hlo : -bound ≤ x) (hhi : x ≤ bound) : checkI64 operation x = .ok x := by
  unfold checkI64
  rw [if_pos]
  unfold i64Min i64Bound at *
  omega

/-- A checked signed sum is the check of the exact sum. -/
theorem addI64_eq_checkI64 (operation : String) (a b : Int) :
    addI64 operation a b = checkI64 operation (a + b) :=
  rfl

/-- A checked signed product is the check of the exact product. -/
theorem mulI64_eq_checkI64 (operation : String) (a b : Int) :
    mulI64 operation a b = checkI64 operation (a * b) :=
  rfl

/-- A checked unsigned sum succeeds exactly when the sum is a word, and then yields the sum. -/
theorem addU64_eq_ok_iff {operation : String} {a b c : Nat} :
    addU64 operation a b = .ok c ↔ a + b < u64Size ∧ c = a + b := by
  unfold addU64 checkU64
  split
  · simp_all [eq_comm]
  · simp only [reduceCtorEq, false_iff, not_and]
    omega

/-- A checked unsigned sum fails exactly when the sum is not a word, with the overflow fault of
its operation. -/
theorem addU64_eq_error_iff {operation : String} {a b : Nat} {e : BenchError} :
    addU64 operation a b = .error e ↔ u64Size ≤ a + b ∧ e = .overflow operation := by
  unfold addU64 checkU64
  split
  · simp only [reduceCtorEq, false_iff, not_and]
    intro _ _
    omega
  · simp only [Except.error.injEq]
    constructor
    · intro h
      exact ⟨by omega, h.symm⟩
    · intro h
      exact h.2.symm

end CpuBench.Word
