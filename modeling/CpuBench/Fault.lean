/-!
# Faults of a benchmark run

A workload either finishes with its value or stops at the first 64-bit step that would leave
the range of its word, and a result table refuses a name that it already holds. `BenchError`
names these two causes; `BenchError.message` is the one place that words them.

A few inputs are so large that the machine could not even lay out the storage that a workload
asks for up front, and a settings key may name an array position that no array could reach.
Such a run stops with a `Halt`, a cause outside the computation's own domain, carried beside its
result rather than inside it.
-/

namespace CpuBench

/-- Why a workload or a result table gave up. -/
inductive BenchError where
  /-- A checked 64-bit step left the range of its word; `operation` names the workload. -/
  | overflow (operation : String)
  /-- A result name was recorded a second time. -/
  | duplicateKey (key : String)
  deriving DecidableEq, Repr, Inhabited

namespace BenchError

/-- The text of a fault, as reports and logs show it. -/
def message : BenchError → String
  | .overflow operation => "Arithmetic overflow in " ++ operation
  | .duplicateKey key => "Duplicate result key: " ++ key

end BenchError

/-- A run that stops before it can answer, because storage it lays out cannot be described on a
64-bit machine or a position it reaches does not exist; `message` says what went wrong. -/
structure Halt where
  message : String
  deriving DecidableEq, Repr

end CpuBench
