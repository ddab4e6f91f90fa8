import CpuBench.Word

/-!
# An integer matrix product

For size `n`, the factors are `A i j = i + j` and `B i j = i - j` as signed 64-bit words. Each
entry of `A · B` is a dot product with checked products and sums, and the workload answers the
checked sum of all entries, row by row.

All faults are the same overflow fault, so computing the entries and summing them can run as one
pass that stops at the first fault. A size that is no signed word fails at once; a size whose
rows could not even be laid out halts.
-/

namespace CpuBench.Matrix

/-- The name under which the product reports an overflow. -/
def operation : String := "matrix_multiply"

/-- Entry `(i, j)` of the left factor. -/
def left (i j : Nat) : Int := (i : Int) + j

/-- Entry `(i, j)` of the right factor. -/
def right (i j : Nat) : Int := (i : Int) - j

/-- `dotFrom i j r k acc` adds to `acc` the `r` checked terms `left i k' * right k' j` for
`k' = k, k + 1, …`. -/
def dotFrom (i j : Nat) : Nat → Nat → Int → Except BenchError Int
  | 0, _, acc => .ok acc
  | r + 1, k, acc => do
    let term ← Word.mulI64 operation (left i k) (right k j)
    let acc ← Word.addI64 operation acc term
    dotFrom i j r (k + 1) acc

/-- Entry `(i, j)` of the product of the size-`n` factors. -/
def entry (n i j : Nat) : Except BenchError Int :=
  dotFrom i j n 0 0

/-- `rowFrom n i r j acc` adds to `acc` the `r` entries of row `i` from column `j` on. -/
def rowFrom (n i : Nat) : Nat → Nat → Int → Except BenchError Int
  | 0, _, acc => .ok acc
  | r + 1, j, acc => do
    let e ← entry n i j
    let acc ← Word.addI64 operation acc e
    rowFrom n i r (j + 1) acc

/-- `rowsFrom n r i acc` adds to `acc` the entries of the `r` rows from row `i` on. -/
def rowsFrom (n : Nat) : Nat → Nat → Int → Except BenchError Int
  | 0, _, acc => .ok acc
  | r + 1, i, acc => do
    let acc ← rowFrom n i n 0 acc
    rowsFrom n r (i + 1) acc

/-- The checked sum of all entries of the product of the size-`n` factors. A size of `2^63` or
more is no signed word and overflows at once. -/
def productSum (n : Nat) : Except BenchError Int :=
  if (n : Int) < Word.i64Bound then rowsFrom n n 0 0 else .error (.overflow operation)

/-- Whether the rows of a size-`n` factor can be laid out: `n` row handles of 24 bytes must
stay below `2^63 - 8` bytes. -/
def rowsFit (n : Nat) : Bool :=
  n * 24 ≤ Nat.pow 2 63 - 8

/-- The workload as a run: the sum, or a halt when a size that is a word cannot be laid out. -/
def run (n : Nat) : Except Halt (Except BenchError Int) :=
  if (n : Int) < Word.i64Bound && !rowsFit n then .error ⟨"capacity overflow"⟩
  else .ok (productSum n)

end CpuBench.Matrix
