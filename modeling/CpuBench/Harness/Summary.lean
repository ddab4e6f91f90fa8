import CpuBench.Harness.Violation

/-!
# Repeated runs

The harness calls a benchmark run a given number of times, checks every report, and sums up
the times. The run is a closure with a state of its own, so each call may answer differently;
the harness hands the state from one call to the next. Call `k` (from 1) may fail with a fault or produce a report that breaks a rule;
the harness then stops at once and names the call. A count of zero is refused before any call.

The loop is written once for any monad (`runIterationsM`): the program runs it in `IO`, with
timed calls and a reading of resident memory, and `runIterationsFrom` is the same loop over a
driver whose state is passed from call to call.

The summary holds the count, the total time (summed from `0.0` in call order), the average
(the total divided by the count), the least and greatest time and the report of the last call.
The least time starts from infinity and the greatest from `0.0`; of two equal times, such as
`0.0` and `-0.0`, the later one is kept. The memory a run used is measured outside and handed
in.
-/

namespace CpuBench.Harness

/-- Why repeated runs stopped. -/
inductive Failure where
  | noIterations
  | workload (iteration : Nat) (source : BenchError)
  | invalidReport (iteration : Nat) (violation : Violation)

namespace Failure

/-- The text of a failure. -/
def message : Failure → String
  | .noIterations => "Iteration count must be at least 1"
  | .workload k e => "Benchmark run " ++ Nat.repr k ++ " failed: " ++ e.message
  | .invalidReport k v =>
    "Benchmark run " ++ Nat.repr k ++ " produced an invalid report: " ++ v.message

/-- The name of the failure. -/
def kind : Failure → String
  | .noIterations => "NoIterations"
  | .workload _ _ => "Workload"
  | .invalidReport _ _ => "InvalidReport"

end Failure

/-- What repeated runs measured. -/
structure Summary where
  iterations : Nat
  totalMs : Float
  averageMs : Float
  minMs : Float
  maxMs : Float
  memoryUsedBytes : Nat
  lastReport : Report

/-- Positive infinity. -/
def infinity : Float := 1.0 / 0.0

/-- The smaller of two floats; a NaN gives way to the other operand, and of two equal operands
the second is taken. -/
def minNum (a b : Float) : Float :=
  if b.isNaN then a else if a < b then a else b

/-- The larger of two floats; a NaN gives way to the other operand, and of two equal operands
the second is taken. -/
def maxNum (a b : Float) : Float :=
  if b.isNaN then a else if a > b then a else b

/-- The running totals after some calls. -/
structure Tally where
  totalMs : Float := 0.0
  minMs : Float := infinity
  maxMs : Float := 0.0
  last : Option Report := none

/-- Adds a valid report's time to the totals. -/
def Tally.add (t : Tally) (r : Report) : Tally :=
  { totalMs := t.totalMs + r.totalMs, minMs := minNum t.minMs r.totalMs,
    maxMs := maxNum t.maxMs r.totalMs, last := some r }

/-- Call `k` answered `outcome`: its report, checked, added to the totals. -/
def Tally.call (t : Tally) (k : Nat) (outcome : Except BenchError Report) :
    Except Failure Tally := do
  let r ← outcome.mapError (.workload k)
  (validate r).mapError (.invalidReport k)
  pure (t.add r)

/-- The summary of `iterations` calls whose totals are `t`; `memoryUsedBytes` is the memory
growth measured around the calls. -/
def Tally.summarize (t : Tally) (iterations memoryUsedBytes : Nat) : Except Failure Summary :=
  match t.last with
  | none => .error .noIterations
  | some last =>
    .ok { iterations, totalMs := t.totalMs,
          averageMs := t.totalMs / Float.ofNat iterations, minMs := t.minMs,
          maxMs := t.maxMs, memoryUsedBytes, lastReport := last }

/-- Makes `r` calls of `call`, numbered from `k`, in the monad of the calls, and adds each
checked report to `t`; the first failure stops them. -/
def Tally.callsM {m : Type → Type} [Monad m] (call : m (Except BenchError Report)) :
    Nat → Nat → Tally → m (Except Failure Tally)
  | 0, _, t => pure (.ok t)
  | r + 1, k, t => do
    match t.call k (← call) with
    | .ok t => Tally.callsM call r (k + 1) t
    | .error f => pure (.error f)

/-- The harness in the monad of its calls. A count of zero is refused before any call;
otherwise `measure` starts a measurement of memory, the calls `1 … iterations` are made and
checked, and when every call passed, the memory the calls took is read and the totals summed
up. -/
def runIterationsM {m : Type → Type} [Monad m] (iterations : Nat)
    (call : m (Except BenchError Report)) (measure : m (m Nat)) : m (Except Failure Summary) :=
  if iterations = 0 then pure (.error .noIterations)
  else do
    let growth ← measure
    match ← Tally.callsM call iterations 1 {} with
    | .error f => pure (.error f)
    | .ok t => return t.summarize iterations (← growth)

/-- Makes `r` calls of `driver`, numbered from `k`, starting in the driver's state `s`, and adds
each checked report to `t`; the first failure stops them. Answers the totals or the failure,
together with the driver's state after the last call it made. -/
def Tally.callsFrom {σ : Type} (driver : σ → Except BenchError Report × σ) (r k : Nat) (t : Tally)
    (s : σ) : Except Failure Tally × σ :=
  (Tally.callsM (m := StateM σ) driver r k t).run s

/-- Calls `driver` for `k = 1 … iterations`, starting in its state `s`, checks each report and
sums up; `memoryUsedBytes` is the memory growth measured around the calls. The driver is a
closure with a state of its own, so the answer comes with the state the calls left it in. -/
def runIterationsFrom {σ : Type} (iterations : Nat) (driver : σ → Except BenchError Report × σ)
    (s : σ) (memoryUsedBytes : Nat) : Except Failure Summary × σ :=
  (runIterationsM (m := StateM σ) iterations driver (pure (pure memoryUsedBytes))).run s

/-- Calls `run k` for `k = 1 … iterations`: a driver whose state counts the calls it answered. -/
def runIterations (iterations : Nat) (run : Nat → Except BenchError Report)
    (memoryUsedBytes : Nat) : Except Failure Summary :=
  (runIterationsFrom iterations (fun calls => (run (calls + 1), calls + 1)) 0 memoryUsedBytes).1

/-- The growth of memory between two measurements, zero when either is missing or memory
shrank. -/
def memoryGrowth : Option Nat → Option Nat → Nat
  | some before, some after => after - before
  | _, _ => 0

/-- How many calls a harness outcome took: none when the count was refused, up to the failing
call, or all of them. -/
def callsMade : Except Failure Summary → Nat
  | .error .noIterations => 0
  | .error (.workload k _) => k
  | .error (.invalidReport k _) => k
  | .ok s => s.iterations

end CpuBench.Harness
