import CpuBench.Fault

/-!
# Taking `do` blocks apart

The workloads, the result table and the harness all answer in `Except`: a value, or the first
fault, which every later step passes on unchanged. The lemmas here take one step of a `do` block
apart, so that proofs about a computation follow its binds instead of unfolding `Except.bind`:

* `ok_bind`, `error_bind` — a finished step hands its value on, a fault stops the block;
* `bind_eq_ok` — a block that produced a value had its first step produce one;
* `mapError_ok`, `mapError_error` — renaming a fault leaves a value alone.
-/

namespace CpuBench

variable {ε ε' α β : Type}

/-- A step that produced a value hands it to the rest of the block. -/
@[simp] theorem ok_bind (a : α) (f : α → Except ε β) : (Except.ok a >>= f) = f a :=
  rfl

/-- A fault stops the block: the rest never runs. -/
@[simp] theorem error_bind (e : ε) (f : α → Except ε β) :
    (Except.error e >>= f) = Except.error e :=
  rfl

/-- A block that produced a value had its first step produce one, from which the rest of the
block produced the value. -/
theorem bind_eq_ok {x : Except ε α} {f : α → Except ε β} {b : β} :
    (x >>= f) = .ok b ↔ ∃ a, x = .ok a ∧ f a = .ok b := by
  cases x with
  | error e => simp
  | ok a => simp

/-- Renaming a fault keeps a value. -/
@[simp] theorem mapError_ok (g : ε → ε') (a : α) :
    (Except.ok a : Except ε α).mapError g = .ok a :=
  rfl

/-- Renaming a fault renames it. -/
@[simp] theorem mapError_error (g : ε → ε') (e : ε) :
    (Except.error e : Except ε α).mapError g = .error (g e) :=
  rfl

end CpuBench
