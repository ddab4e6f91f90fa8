import CpuBench.Report.Results
import CpuBench.Decimal.Reading

/-!
# Reports

A report is what one benchmark run produces: its result table, the combined result of that
table, and how long the run took, in milliseconds.

A run's time is a `Duration`: whole seconds, an unsigned word, and nanoseconds below a second;
the structure carries both bounds. Building one from a nanosecond count of a second or more
carries the whole seconds over, and a carry past the largest word halts. In milliseconds a
duration is its whole nanosecond count as the nearest float, divided by a million.

A `Builder` collects results for a run, refusing a repeated name, and is finished with the time
the run took.
-/

namespace CpuBench

/-- A span of time: whole seconds and the nanoseconds of a second begun. -/
structure Duration where
  secs : Nat
  nanos : Nat
  /-- The seconds are an unsigned word. -/
  secs_lt : secs < Nat.pow 2 64
  /-- The nanoseconds are those of a second begun. -/
  nanos_lt : nanos < 1000000000
  deriving DecidableEq, Repr

namespace Duration

/-- The duration of `secs` seconds and `nanos` nanoseconds; nanoseconds of a full second or more
are carried into the seconds, which must stay an unsigned word. -/
def new (secs nanos : Nat) : Except Halt Duration :=
  let total := secs + nanos / 1000000000
  if h : total < Nat.pow 2 64 then .ok ⟨total, nanos % 1000000000, h, Nat.mod_lt _ (by decide)⟩
  else .error ⟨"overflow in Duration::new"⟩

/-- The whole duration in nanoseconds. -/
def toNanos (d : Duration) : Nat :=
  d.secs * 1000000000 + d.nanos

/-- The duration in milliseconds, as a float. -/
def toMillis (d : Duration) : Float :=
  Decimal.nearestFloat d.toNanos / 1000000.0

end Duration

/-- The outcome of one benchmark run. -/
structure Report where
  results : ResultMap
  combined : Float
  totalMs : Float

namespace Report

/-- The report of finished results that took `elapsed`; the combined result is the table's. -/
def ofParts (results : ResultMap) (elapsed : Duration) : Report :=
  ⟨results, results.truthySum, elapsed.toMillis⟩

/-- The names whose results did not count towards the combined result. -/
def skippedKeys (r : Report) : List String :=
  r.results.skippedKeys

end Report

/-- The results of a run in progress. -/
structure Builder where
  results : ResultMap

namespace Builder

/-- A run with nothing recorded yet. -/
def start : Builder :=
  ⟨.empty⟩

/-- Records a result; a name already recorded is refused. -/
def record (b : Builder) (key : String) (value : Float) : Except BenchError Builder :=
  (b.results.insert key value).map Builder.mk

/-- The report of the run, which took `elapsed`. -/
def finish (b : Builder) (elapsed : Duration) : Report :=
  .ofParts b.results elapsed

end Builder

end CpuBench
