import CpuBench.Report.Basic
import CpuBench.Workload.Catalogue

/-!
# Benchmark runs

A run executes workloads one after another and records each result under the workload's key
as soon as it is known. The first fault stops the run: a workload's own fault, or a key that
was recorded before because the workload was listed twice. The full benchmark runs every
workload of the catalogue once, in catalogue order.

A run here yields the builder of its report; the caller finishes it with the time it measured.
-/

namespace CpuBench

/-- Records the result of a workload under its key. -/
def Builder.recordWorkload (b : Builder) (w : Workload) (value : Float) :
    Except BenchError Builder :=
  b.record w.key value

/-- Executes the workloads in order, each on the input `input` gives it, and records each
result; the first fault stops it. -/
def runWorkloadsWith (input : Workload → Nat) (ws : List Workload) : Except BenchError Builder :=
  ws.foldlM (fun b w => do b.recordWorkload w (← w.executeOn (input w))) Builder.start

/-- Executes the workloads in order on their fixed parameters and records each result; the first
fault stops it. -/
def runWorkloads (ws : List Workload) : Except BenchError Builder :=
  runWorkloadsWith Workload.parameter ws

/-- Executes every workload of the catalogue once. -/
def runBenchmark : Except BenchError Builder :=
  runWorkloads Workload.all

end CpuBench
