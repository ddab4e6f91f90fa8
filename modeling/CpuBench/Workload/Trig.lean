import CpuBench.Fault

/-!
# A trigonometric series

The series `sin i · cos i` for `i = 0 … size - 1` is sorted ascending; its positive terms are
squared and summed in that order, starting from `-0.0`, the neutral element of floating-point
addition. The result is a sum of floats, so the order of the terms is part of the rule.
-/

namespace CpuBench.Trig

/-- The terms `sin i · cos i` for `i = 0 … size - 1`. -/
def series (size : Nat) : List Float :=
  (List.range size).map fun i =>
    let x := Float.ofNat i
    x.sin * x.cos

/-- Sorts the series ascending, keeps its positive terms and sums their squares in order. -/
def positiveSquareSum (size : Nat) : Float :=
  let sorted := (series size).mergeSort (fun a b => a ≤ b)
  ((sorted.filter (fun v => v > 0)).map (fun v => v * v)).foldl (· + ·) (-0.0)

/-- Whether an array of `size` floats can be laid out: its bytes must stay below `2^63 - 8`. -/
def arrayFits (size : Nat) : Bool :=
  size * 8 ≤ Nat.pow 2 63 - 8

/-- The workload as a run: the sum, or a halt when the array cannot be laid out. -/
def run (size : Nat) : Except Halt Float :=
  if arrayFits size then .ok (positiveSquareSum size) else .error ⟨"capacity overflow"⟩

end CpuBench.Trig
