import CpuBench.Output.Record

/-!
# Workload targets

Each workload of the catalogue is also a benchmark target of its own, named
`microbench/<key>`. Running a target executes the workload once and records its key, its
parameter, and either its value and the milliseconds it took or the text of its fault.
-/

namespace CpuBench

/-- The namespace of target names. -/
def Output.targetPrefix : String := "microbench"

/-- The name of a workload's target. -/
def Workload.targetId (w : Workload) : String :=
  Output.targetPrefix ++ "/" ++ w.key

/-- The names of all targets, in catalogue order. -/
def Output.allTargetIds : List String :=
  Workload.all.map Workload.targetId

/-- The metrics of a target run with the given outcome, which took `elapsedMs`. -/
def Workload.outcomeMetrics (w : Workload) (outcome : Except BenchError Float)
    (elapsedMs : Float) : Json.Value :=
  .object ([("workload", .string w.key), ("parameter", .ofNat w.parameter)] ++
    match outcome with
    | .ok v => [("value", .ofFloat v), ("elapsed_ms", .ofFloat elapsedMs)]
    | .error e => [("error", .string e.message)])

/-- The metrics of a target run that took `elapsedMs`. -/
def Workload.targetMetrics (w : Workload) (elapsedMs : Float) : Json.Value :=
  w.outcomeMetrics w.execute elapsedMs

/-- The record of a target run that took `elapsedMs`, taken at `at_`. -/
def Workload.targetRecord (w : Workload) (elapsedMs : Float) (at_ : Time.Instant) :
    Output.Record :=
  ⟨w.targetId, w.targetMetrics elapsedMs, at_⟩

end CpuBench
