import CpuBench.Word

/-!
# Fibonacci numbers in a 64-bit word

`fib` is the sequence over unbounded naturals. The two workloads compute it inside an unsigned
64-bit word, checking every addition:

* `recursive` follows the defining equation, both calls and then their checked sum;
* `iterative` walks the pair `(F k, F (k + 1))` upward with one checked sum per step.

Both succeed exactly while the sums stay below `2^64`, that is up to `F 93`.
-/

namespace CpuBench.Fibonacci

/-- The Fibonacci sequence over unbounded naturals: `0, 1, 1, 2, 3, 5, …`. -/
def fib : Nat → Nat
  | 0 => 0
  | 1 => 1
  | n + 2 => fib (n + 1) + fib n

/-- The name under which the recursive workload reports an overflow. -/
def recursiveOperation : String := "fibonacci_recursive"

/-- The name under which the iterative workload reports an overflow. -/
def iterativeOperation : String := "fibonacci_iterative"

/-- The doubly recursive workload: both previous values, then their checked sum. A fault of
either call is the fault of the whole, so an overflow deep in the call tree surfaces at once. -/
def recursive : Nat → Except BenchError Nat
  | 0 => .ok 0
  | 1 => .ok 1
  | n + 2 => do
    let a ← recursive (n + 1)
    let b ← recursive n
    Word.addU64 recursiveOperation a b

/-- `walk r a b` takes `r` more steps from the pair `(a, b)`, each step replacing it by
`(b, a + b)` with a checked sum, and answers the second component at the end. -/
def walk : Nat → Nat → Nat → Except BenchError Nat
  | 0, _, b => .ok b
  | r + 1, a, b => do
    let next ← Word.addU64 iterativeOperation a b
    walk r b next

/-- The iterative workload: `F 0` and `F 1` directly, otherwise `n - 1` steps from `(0, 1)`. -/
def iterative : Nat → Except BenchError Nat
  | 0 => .ok 0
  | 1 => .ok 1
  | n + 2 => walk (n + 1) 0 1

end CpuBench.Fibonacci
