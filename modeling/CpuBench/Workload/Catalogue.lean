import CpuBench.Workload.Fibonacci
import CpuBench.Workload.Primes
import CpuBench.Workload.Records
import CpuBench.Workload.Trig
import CpuBench.Workload.FizzText
import CpuBench.Workload.Matrix
import CpuBench.Json.Read

/-!
# The workload catalogue

Seven workloads make up a benchmark run, always in the order of `Workload.all`. Each has a fixed
parameter, a key under which its result is recorded, and a float result computed from that
parameter. With the fixed parameters no workload halts, so a result is a value or a fault.

In data a workload is written as its key, a string; an object with the key as its only field,
whose value is `null`, names it too.
-/

namespace CpuBench

/-- One of the seven benchmark computations. -/
inductive Workload where
  | fibRecursive
  | fibIterative
  | primes
  | objectOps
  | arrayOps
  | stringOps
  | matrixMultiply
  deriving DecidableEq, Repr, Inhabited

namespace Workload

/-- All workloads, in the order a benchmark run takes them. -/
def all : List Workload :=
  [.fibRecursive, .fibIterative, .primes, .objectOps, .arrayOps, .stringOps, .matrixMultiply]

/-- The key of a workload's result, which is also its name in data. -/
def key : Workload → String
  | .fibRecursive => "fibRecursive"
  | .fibIterative => "fibIterative"
  | .primes => "primes"
  | .objectOps => "objectOps"
  | .arrayOps => "arrayOps"
  | .stringOps => "stringOps"
  | .matrixMultiply => "matrixMultiply"

/-- The fixed input of a workload. -/
def parameter : Workload → Nat
  | .fibRecursive => 20
  | .fibIterative => 40
  | .primes => 5000
  | .objectOps => 500
  | .arrayOps => 2000
  | .stringOps => 300
  | .matrixMultiply => 25

/-- Runs a workload on input `n`. -/
def executeOn : Workload → Nat → Except BenchError Float
  | .fibRecursive, n => (Fibonacci.recursive n).map Decimal.nearestFloat
  | .fibIterative, n => (Fibonacci.iterative n).map Decimal.nearestFloat
  | .primes, n => .ok (Decimal.nearestFloat (Primes.upTo n).length)
  | .objectOps, n => (Records.totalWeight n).map Decimal.nearestFloat
  | .arrayOps, n => .ok (Trig.positiveSquareSum n)
  | .stringOps, n => .ok (Decimal.nearestFloat (FizzText.score n))
  | .matrixMultiply, n => (Matrix.productSum n).map Float.ofInt

/-- Runs a workload on its fixed parameter. -/
def execute (w : Workload) : Except BenchError Float :=
  w.executeOn w.parameter

/-- The workload with the given key. -/
def ofKey? (name : String) : Option Workload :=
  all.find? (·.key == name)

/-- The position of a workload in `all`. -/
def index (w : Workload) : Nat :=
  all.idxOf w

/-- The workload named by a key, or the error that lists the keys. -/
def ofName (name : String) : Except Json.Error Workload :=
  match ofKey? name with
  | some w => .ok w
  | none => .error (.unknownVariant name (all.map key))

/-- The workload a data value names: its key, or an object whose only field is the key with
`null` as its value. -/
def ofValue : Json.Value → Except Json.Error Workload
  | .string name => ofName name
  | .object [(name, v)] => do
    let w ← ofName name
    match v with
    | .null => pure w
    | other => throw (.invalidType (.ofValue other) "unit")
  | .object _ => .error (.invalidValue .map "map with a single key")
  | other => .error (.invalidType (.ofValue other) "string or map")

end Workload

end CpuBench
