/-!
# The FizzBuzz text

Line `i` reads `Iteration i: ` followed by `Fizz` when 3 divides `i`, `Buzz` when 5 divides it,
the number itself when neither does, and a line break. The workload counts the occurrences of
`Fizz` in the text of lines `0 … n - 1`, measures the text after every `Buzz` becomes `BUZZ`,
and scores the sum of the two.

Neither pattern contains a line break and every line ends in one, so no occurrence spans two
lines: counting and replacing line by line gives the same figures as doing it on the whole text.
-/

namespace CpuBench.FizzText

/-- Line `i` of the text, line break included. -/
def line (i : Nat) : String :=
  let fizz := i % 3 == 0
  let buzz := i % 5 == 0
  "Iteration " ++ Nat.repr i ++ ": " ++ (if fizz then "Fizz" else "") ++
    (if buzz then "Buzz" else "") ++ (if fizz || buzz then "" else Nat.repr i) ++ "\n"

/-- The whole text of lines `0 … n - 1`. -/
def text (n : Nat) : String :=
  String.join ((List.range n).map line)

/-- The occurrences of `pat` in `s` that a left-to-right scan finds without overlap. An empty
pattern finds nothing. -/
def countMatches (pat : List Char) : List Char → Nat
  | [] => 0
  | c :: rest =>
    if h : pat ≠ [] ∧ pat.isPrefixOf (c :: rest) then
      have : 0 < pat.length := List.length_pos_iff.mpr h.1
      1 + countMatches pat ((c :: rest).drop pat.length)
    else countMatches pat rest
termination_by s => s.length

/-- `s` with each occurrence of `pat` found by a left-to-right scan without overlap replaced by
`rep`. An empty pattern changes nothing. -/
def replaceMatches (pat rep : List Char) : List Char → List Char
  | [] => []
  | c :: rest =>
    if h : pat ≠ [] ∧ pat.isPrefixOf (c :: rest) then
      have : 0 < pat.length := List.length_pos_iff.mpr h.1
      rep ++ replaceMatches pat rep ((c :: rest).drop pat.length)
    else c :: replaceMatches pat rep rest
termination_by s => s.length

/-- The figures the workload reports. -/
structure Stats where
  /-- Bytes of the text after `Buzz` became `BUZZ`. -/
  replacedLen : Nat
  /-- Occurrences of `Fizz`. -/
  fizzCount : Nat
  deriving DecidableEq, Repr

/-- The score: replaced length plus the number of `Fizz`. -/
def Stats.score (s : Stats) : Nat :=
  s.replacedLen + s.fizzCount

/-- The figures of a text: its byte length once every `Buzz` became `BUZZ`, and its number of
`Fizz`. -/
def textStats (t : String) : Stats :=
  let chars := t.toList
  { replacedLen := (String.ofList (replaceMatches "Buzz".toList "BUZZ".toList chars)).utf8ByteSize
    fizzCount := countMatches "Fizz".toList chars }

/-- The figures of one line. -/
def lineStats (i : Nat) : Stats :=
  textStats (line i)

/-- `statsFrom r i acc` adds the figures of the `r` lines from line `i` to `acc`. -/
def statsFrom : Nat → Nat → Stats → Stats
  | 0, _, acc => acc
  | r + 1, i, acc =>
    let s := lineStats i
    statsFrom r (i + 1) ⟨acc.replacedLen + s.replacedLen, acc.fizzCount + s.fizzCount⟩

/-- The figures of the text of lines `0 … n - 1`. -/
def stats (n : Nat) : Stats :=
  statsFrom n 0 ⟨0, 0⟩

/-- The workload's value: the score of the text of `n` lines. -/
def score (n : Nat) : Nat :=
  (stats n).score

end CpuBench.FizzText
