import CpuBench.Workload.Fibonacci
import CpuBench.Workload.Primes
import Std.Data.HashMap

/-!
# Keyed records

Record `i` holds `i`, its square and cube (checked unsigned words), its square root, whether it
is prime and the Fibonacci number of `i mod 25`. Its weight is the square for a prime and the
cube otherwise.

The workload makes two passes over the indices `0 … n - 1`. The first builds every record and
keeps it in a table under the key `key<i>`; the first record that cannot be built stops the
run. The second looks each record up again by its key and adds its weight to a running sum with
a checked addition.

The table is laid out for all `n` records before the first one is built. `tableFits` says when
that layout exists on a 64-bit machine; `run` halts otherwise.
-/

namespace CpuBench.Records

/-- The name under which record building and weighing report an overflow. -/
def operation : String := "object_operations"

/-- The Fibonacci index of record `i` is `i` modulo this. -/
def fibonacciModulus : Nat := 25

/-- What a record knows about its index. -/
structure Record where
  value : Nat
  square : Nat
  cube : Nat
  sqrt : Float
  isPrime : Bool
  fibonacci : Nat
  deriving Inhabited

/-- Builds record `i`; the square and the cube must be unsigned words. -/
def Record.build (i : Nat) : Except BenchError Record := do
  let square ← Word.mulU64 operation i i
  let cube ← Word.mulU64 operation square i
  let fibonacci ← Fibonacci.iterative (i % fibonacciModulus)
  pure { value := i, square, cube, sqrt := (Float.ofNat i).sqrt,
         isPrime := Primes.isPrime i, fibonacci }

/-- A prime record weighs its square, any other its cube. -/
def Record.weight (r : Record) : Nat :=
  if r.isPrime then r.square else r.cube

/-- The key under which record `i` is kept. -/
def recordKey (i : Nat) : String :=
  "key" ++ Nat.repr i

/-- `buildFrom r i table` builds the `r` records from index `i` and keeps each in `table` under
its key. -/
def buildFrom : Nat → Nat → Std.HashMap String Record →
    Except BenchError (Std.HashMap String Record)
  | 0, _, table => .ok table
  | r + 1, i, table => do
    let record ← Record.build i
    buildFrom r (i + 1) (table.insert (recordKey i) record)

/-- `sumFrom table r i sum` looks up the `r` records from index `i` by their keys and adds
their weights to `sum`, each with a checked addition. -/
def sumFrom (table : Std.HashMap String Record) : Nat → Nat → Nat → Except BenchError Nat
  | 0, _, sum => .ok sum
  | r + 1, i, sum => do
    -- a key the first pass did not store would stop the run, as an index out of a table does
    let sum ← Word.addU64 operation sum (table[recordKey i]!).weight
    sumFrom table r (i + 1) sum

/-- The checked sum of the weights of records `0 … n - 1`, built and kept by key first, then
looked up and weighed. -/
def totalWeight (n : Nat) : Except BenchError Nat := do
  let table ← buildFrom n 0 ∅
  sumFrom table n 0 0

/-- Whether a keyed table sized for `n` records can be laid out. The table keeps one slot in
eight free and rounds its slot count up to a power of two; with slots of 72 bytes plus a control
byte, the layout must stay below `2^63` bytes, which holds exactly up to `2^56` slots. -/
def tableFits (n : Nat) : Bool :=
  n * 8 / 7 ≤ Nat.pow 2 56

/-- The workload as a run: the total weight, or a halt when the table cannot be laid out. -/
def run (n : Nat) : Except Halt (Except BenchError Nat) :=
  if tableFits n then .ok (totalWeight n) else .error ⟨"Hash table capacity overflow"⟩

end CpuBench.Records
