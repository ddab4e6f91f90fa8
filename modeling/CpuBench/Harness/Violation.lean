import CpuBench.Report.Basic
import CpuBench.Workload.Catalogue
import CpuBench.Text.Debug

/-!
# What a valid report is

A report of a full benchmark run is valid when, checked in this order:

1. its result names are exactly the catalogue's keys, in catalogue order;
2. its combined result is finite;
3. its combined result equals the combined result of its table, as floats compare;
4. its combined result is positive;
5. its time is finite and not negative.

`validate` names the first rule that fails. The messages write floats in shortest plain notation
(`-7`, `0.0000001`, `inf`, `NaN`, `-0`) and name lists as quoted, comma-separated lists.
-/

namespace CpuBench.Harness

/-- The first rule a report breaks. -/
inductive Violation where
  | keys (expected actual : List String)
  | nonFiniteCombined (combined : Float)
  | combinedMismatch (reported recomputed : Float)
  | nonPositiveCombined (combined : Float)
  | invalidElapsed (totalMs : Float)

namespace Violation

/-- A float as the messages write it. -/
def num (x : Float) : String :=
  Decimal.Notation.plain.render x

/-- The text of a violation. -/
def message : Violation → String
  | .keys expected actual =>
    "unexpected result keys: expected " ++ Text.quoteList expected ++ ", got " ++
      Text.quoteList actual
  | .nonFiniteCombined c => "combined result is not a finite number: " ++ num c
  | .combinedMismatch reported recomputed =>
    "combined result " ++ num reported ++ " does not match recomputed sum " ++ num recomputed
  | .nonPositiveCombined c => "combined result must be positive, got " ++ num c
  | .invalidElapsed t => "total time is not a finite non-negative duration: " ++ num t

/-- The name of the rule that was broken. -/
def kind : Violation → String
  | .keys _ _ => "Keys"
  | .nonFiniteCombined _ => "NonFiniteCombined"
  | .combinedMismatch _ _ => "CombinedMismatch"
  | .nonPositiveCombined _ => "NonPositiveCombined"
  | .invalidElapsed _ => "InvalidElapsed"

end Violation

/-- Checks a report against the rules, in order, and names the first one it breaks. -/
def validate (r : Report) : Except Violation Unit := do
  let expected := Workload.all.map Workload.key
  if r.results.keys != expected then throw (.keys expected r.results.keys)
  if !r.combined.isFinite then throw (.nonFiniteCombined r.combined)
  let recomputed := r.results.truthySum
  if recomputed != r.combined then throw (.combinedMismatch r.combined recomputed)
  if r.combined ≤ 0.0 then throw (.nonPositiveCombined r.combined)
  if !r.totalMs.isFinite || r.totalMs < 0.0 then throw (.invalidElapsed r.totalMs)

end CpuBench.Harness
