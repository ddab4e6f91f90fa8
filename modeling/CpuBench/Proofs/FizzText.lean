import Mathlib.Algebra.BigOperators.Group.Finset.Piecewise
import Mathlib.Algebra.BigOperators.Group.List.Basic
import Mathlib.Algebra.Order.BigOperators.Group.LocallyFinite
import Mathlib.Data.Nat.Log
import Mathlib.Order.Interval.Finset.Nat
import CpuBench.Workload.FizzText

/-!
# Counting and measuring the FizzBuzz text

The workload scans the whole text twice: once for `Fizz`, once to turn every `Buzz` into
`BUZZ`. Both scans have a simple answer.

* `countMatches_line_append` — in line `i` the letter `F` occurs only at the start of the `Fizz`
  fragment: `Iteration `, the digits, `: `, `Buzz` and the line break hold none. So a scan of
  the text meets each `Fizz` fragment as one match and nothing else, line after line.
* `replaceMatches_utf8Size` — replacing a pattern by a text of the same byte size keeps the
  byte size of any text, wherever the matches fall.

So the figures are one `Fizz` per index that 3 divides, and the byte size of the text, which
adds up line by line (`utf8ByteSize_line`). Counting line by line, as `stats` does, gives the
same figures as scanning the whole text (`fizzText_stats`).
-/

namespace CpuBench.FizzText

open Finset

/-! ## Scanning for a pattern -/

section Scan

variable {p : Char} {ps : List Char}

/-- A scan that does not stand on the pattern's first character moves on by one. -/
theorem countMatches_cons_of_ne {c : Char} (rest : List Char) (hc : c ≠ p) :
    countMatches (p :: ps) (c :: rest) = countMatches (p :: ps) rest := by
  rw [countMatches, dif_neg]
  rintro ⟨-, hprefix⟩
  simp only [List.isPrefixOf, Bool.and_eq_true, beq_iff_eq] at hprefix
  exact hc hprefix.1.symm

/-- Characters that cannot start the pattern are passed over. -/
theorem countMatches_append_of_not_mem {l : List Char} (rest : List Char) (hl : p ∉ l) :
    countMatches (p :: ps) (l ++ rest) = countMatches (p :: ps) rest := by
  induction l with
  | nil => rfl
  | cons c l ih =>
    rw [List.mem_cons, not_or] at hl
    rw [List.cons_append, countMatches_cons_of_ne _ (Ne.symm hl.1), ih hl.2]

/-- The pattern itself is one match, and the scan resumes right after it. -/
theorem countMatches_pattern_append (rest : List Char) :
    countMatches (p :: ps) ((p :: ps) ++ rest) = 1 + countMatches (p :: ps) rest := by
  rw [List.cons_append, countMatches,
    dif_pos ⟨List.cons_ne_nil p ps, List.isPrefixOf_iff_prefix.mpr (List.prefix_append _ _)⟩]
  simp

/-- **Replacement keeps the byte size** when the pattern and its replacement have the same
byte size, wherever the matches fall. -/
theorem replaceMatches_utf8Size {pat rep : List Char}
    (h : (rep.map Char.utf8Size).sum = (pat.map Char.utf8Size).sum) (l : List Char) :
    ((replaceMatches pat rep l).map Char.utf8Size).sum = (l.map Char.utf8Size).sum := by
  fun_induction replaceMatches pat rep l with
  | case1 => rfl
  | case2 c rest hmatch _ ih =>
    -- a match is the pattern followed by the rest of the text
    have hsplit := List.prefix_iff_eq_append.mp (List.isPrefixOf_iff_prefix.mp hmatch.2)
    rw [List.map_append, List.sum_append, ih, h, ← List.sum_append, ← List.map_append, hsplit]
  | case3 c rest _ ih =>
    rw [List.map_cons, List.sum_cons, ih, List.map_cons, List.sum_cons]

end Scan

/-! ## Bytes -/

/-- The bytes of a text built from characters are the bytes of the characters. -/
theorem utf8ByteSize_ofList (l : List Char) :
    (String.ofList l).utf8ByteSize = (l.map Char.utf8Size).sum := by
  induction l with
  | nil => rfl
  | cons c l ih =>
    rw [show c :: l = [c] ++ l from rfl, String.ofList_append, String.utf8ByteSize_append,
      ← String.singleton_eq_ofList, String.utf8ByteSize_singleton, ih]
    simp

/-- A decimal digit is one byte. -/
theorem utf8Size_of_isDigit {c : Char} (h : c.isDigit) : c.utf8Size = 1 := by
  rw [Char.utf8Size_eq_one_iff, UInt32.le_iff_toNat_le]
  exact le_trans (Char.isDigit_iff_toNat.mp h).2 (by decide)

/-- `i` is written with `⌊log₁₀ i⌋ + 1` digits: the count grows at every power of ten. -/
theorem length_toDigits (i : Nat) : (Nat.toDigits 10 i).length = Nat.log 10 i + 1 := by
  apply le_antisymm
  · exact (Nat.length_toDigits_le_iff (by decide) (by omega)).mpr
      (Nat.lt_pow_succ_log_self (by decide) i)
  · rcases Nat.eq_zero_or_pos i with rfl | hpos
    · simp
    · -- fewer digits would put `i` below `10 ^ ⌊log₁₀ i⌋`
      by_contra hlt
      have hpos' := Nat.length_toDigits_pos (b := 10) (n := i)
      have hle := (Nat.length_toDigits_le_iff (b := 10) (n := i) (k := Nat.log 10 i)
        (by decide) (by omega)).mp (by omega)
      exact absurd (Nat.pow_log_le_self 10 (by omega)) (Nat.not_le.mpr hle)

/-- The digits of `i` take one byte each. -/
theorem sum_utf8Size_toDigits (i : Nat) :
    ((Nat.toDigits 10 i).map Char.utf8Size).sum = Nat.log 10 i + 1 := by
  have hones : (Nat.toDigits 10 i).map Char.utf8Size = (Nat.toDigits 10 i).map fun _ => 1 :=
    List.map_congr_left fun c hc =>
      utf8Size_of_isDigit (Nat.isDigit_of_mem_toDigits (by decide) (by decide) hc)
  rw [hones, List.map_const', List.sum_const_nat, Nat.mul_one, length_toDigits]

/-- No decimal digit is an `F`. -/
theorem F_not_mem_toDigits (i : Nat) : 'F' ∉ Nat.toDigits 10 i := fun h =>
  absurd (Nat.isDigit_of_mem_toDigits (by decide) (by decide) h) (by decide)

/-! ## Lines -/

/-- The characters of line `i`, piece by piece. -/
theorem toList_line (i : Nat) :
    (line i).toList = "Iteration ".toList ++ Nat.toDigits 10 i ++ ": ".toList ++
      (if i % 3 = 0 then "Fizz".toList else []) ++ (if i % 5 = 0 then "Buzz".toList else []) ++
      (if i % 3 = 0 ∨ i % 5 = 0 then [] else Nat.toDigits 10 i) ++ ['\n'] := by
  -- unfolding by `delta` spares generating the equation lemma of `line`, which is slow
  delta line
  simp only [String.toList_append, Nat.toList_repr, apply_ite String.toList, String.toList_empty,
    Bool.or_eq_true, beq_iff_eq, List.append_assoc]
  rfl

/-- **One `Fizz` per line that 3 divides.** A scan entering line `i` finds a match exactly when
3 divides `i`, and leaves the line without one running on into what follows. -/
theorem countMatches_line_append (i : Nat) (rest : List Char) :
    countMatches "Fizz".toList ((line i).toList ++ rest) =
      (if i % 3 = 0 then 1 else 0) + countMatches "Fizz".toList rest := by
  have hbuzz : 'F' ∉ (if i % 5 = 0 then "Buzz".toList else []) := by split <;> simp
  have hnumber : 'F' ∉ (if i % 3 = 0 ∨ i % 5 = 0 then [] else Nat.toDigits 10 i) := by
    split
    · simp
    · exact F_not_mem_toDigits i
  rw [show "Fizz".toList = ['F', 'i', 'z', 'z'] by simp, toList_line]
  simp only [List.append_assoc]
  rw [countMatches_append_of_not_mem _ (by decide), countMatches_append_of_not_mem _
    (F_not_mem_toDigits i), countMatches_append_of_not_mem _ (by decide)]
  split
  · rw [show "Fizz".toList = ['F', 'i', 'z', 'z'] by simp, countMatches_pattern_append,
      countMatches_append_of_not_mem _ hbuzz, countMatches_append_of_not_mem _ hnumber,
      countMatches_append_of_not_mem _ (by decide)]
  · rw [List.nil_append, countMatches_append_of_not_mem _ hbuzz,
      countMatches_append_of_not_mem _ hnumber, countMatches_append_of_not_mem _ (by decide),
      Nat.zero_add]

/-- The bytes of line `i`, counted: 13 fixed bytes, the digits of `i`, four for each of `Fizz`
and `Buzz`, and the digits again when neither is written. -/
def lineBytes (i : Nat) : Nat :=
  13 + (Nat.log 10 i + 1) + (if 3 ∣ i then 4 else 0) + (if 5 ∣ i then 4 else 0) +
    (if ¬3 ∣ i ∧ ¬5 ∣ i then Nat.log 10 i + 1 else 0)

/-- Line `i` takes `lineBytes i` bytes. -/
theorem utf8ByteSize_line (i : Nat) : (line i).utf8ByteSize = lineBytes i := by
  have hfixed : ("Iteration ".toList.map Char.utf8Size).sum = 10 ∧
      (": ".toList.map Char.utf8Size).sum = 2 ∧ (['\n'].map Char.utf8Size).sum = 1 := by decide
  have hfizz : ("Fizz".toList.map Char.utf8Size).sum = 4 := by decide
  have hbuzz : ("Buzz".toList.map Char.utf8Size).sum = 4 := by decide
  rw [← String.ofList_toList (s := line i), utf8ByteSize_ofList, toList_line]
  simp only [List.map_append, List.sum_append, sum_utf8Size_toDigits, hfixed, lineBytes,
    Nat.dvd_iff_mod_eq_zero]
  by_cases h3 : i % 3 = 0 <;> by_cases h5 : i % 5 = 0 <;>
    simp only [h3, h5, hfizz, hbuzz, sum_utf8Size_toDigits, if_true, if_false, true_or, or_true,
      false_or, not_true_eq_false, not_false_eq_true, and_true, and_false, List.map_nil,
      List.sum_nil] <;> omega

/-- Turning `Buzz` into `BUZZ` keeps the byte size of any text. -/
theorem textStats_replacedLen (t : String) : (textStats t).replacedLen = t.utf8ByteSize := by
  rw [textStats, utf8ByteSize_ofList, replaceMatches_utf8Size (by decide), ← utf8ByteSize_ofList,
    String.ofList_toList]

/-- Line `i` measures its own bytes. -/
theorem lineStats_replacedLen (i : Nat) : (lineStats i).replacedLen = lineBytes i := by
  rw [lineStats, textStats_replacedLen, utf8ByteSize_line]

/-- Line `i` holds one `Fizz` when 3 divides `i`, and none otherwise. -/
theorem lineStats_fizzCount (i : Nat) :
    (lineStats i).fizzCount = if i % 3 = 0 then 1 else 0 := by
  have hcount := countMatches_line_append i []
  have hnil : countMatches "Fizz".toList [] = 0 := by rw [countMatches]
  rw [List.append_nil, hnil, Nat.add_zero] at hcount
  exact hcount

/-! ## The whole text -/

/-- Adding up the figures of `r` lines from line `i`. -/
theorem statsFrom_eq (r i : Nat) (acc : Stats) :
    statsFrom r i acc = ⟨acc.replacedLen + ∑ j ∈ Ico i (i + r), lineBytes j,
      acc.fizzCount + ∑ j ∈ Ico i (i + r), if j % 3 = 0 then 1 else 0⟩ := by
  induction r generalizing i acc with
  | zero => simp [statsFrom]
  | succ r ih =>
    rw [statsFrom, ih, lineStats_replacedLen, lineStats_fizzCount,
      sum_eq_sum_Ico_succ_bot (show i < i + (r + 1) by omega),
      sum_eq_sum_Ico_succ_bot (show i < i + (r + 1) by omega),
      show i + (r + 1) = i + 1 + r by omega]
    simp only [Nat.add_assoc]

/-- The figures counted line by line. -/
theorem stats_eq (n : Nat) :
    stats n = ⟨∑ i ∈ range n, lineBytes i, ∑ i ∈ range n, if i % 3 = 0 then 1 else 0⟩ := by
  rw [stats, statsFrom_eq, Nat.zero_add, Nat.zero_add, Nat.zero_add, Nat.Ico_zero_eq_range]

/-- A scan of the lines from `i` on finds one `Fizz` per index that 3 divides. -/
theorem countMatches_lines (r i : Nat) :
    countMatches "Fizz".toList ((List.range' i r).flatMap fun j => (line j).toList) =
      ∑ j ∈ Ico i (i + r), if j % 3 = 0 then 1 else 0 := by
  induction r generalizing i with
  | zero => simp [countMatches]
  | succ r ih =>
    rw [List.range'_succ, List.flatMap_cons, countMatches_line_append, ih,
      sum_eq_sum_Ico_succ_bot (show i < i + (r + 1) by omega),
      show i + (r + 1) = i + 1 + r by omega]

/-- The text takes the bytes of its lines. -/
theorem utf8ByteSize_text (n : Nat) : (text n).utf8ByteSize = ∑ i ∈ range n, lineBytes i := by
  induction n with
  | zero => rfl
  | succ n ih =>
    rw [sum_range_succ, ← ih, ← utf8ByteSize_line, text, List.range_succ, List.map_append,
      String.join_append, String.utf8ByteSize_append, ← text]
    simp [String.join_cons, String.join_nil]

/-- The figures of the whole text. -/
theorem textStats_text (n : Nat) :
    textStats (text n) =
      ⟨∑ i ∈ range n, lineBytes i, ∑ i ∈ range n, if i % 3 = 0 then 1 else 0⟩ := by
  have hcount : (textStats (text n)).fizzCount =
      ∑ i ∈ range n, if i % 3 = 0 then 1 else 0 := by
    have hlines := countMatches_lines n 0
    rw [← List.range_eq_range', Nat.zero_add, Nat.Ico_zero_eq_range] at hlines
    rw [textStats, text, String.toList_join, List.flatMap_map]
    exact hlines
  rw [← utf8ByteSize_text, ← textStats_replacedLen, ← hcount]

/-- Among `0 … n - 1`, `⌈n / 3⌉` are multiples of 3. -/
theorem sum_range_mod_three (n : Nat) :
    ∑ i ∈ range n, (if i % 3 = 0 then 1 else 0) = (n + 2) / 3 := by
  induction n with
  | zero => rfl
  | succ n ih =>
    rw [sum_range_succ, ih]
    split <;> omega

/-- **The figures of the FizzBuzz text.** Counting line by line gives the figures of the whole
text; it holds `⌈n / 3⌉` times `Fizz`, once for each index below `n` that 3 divides; and turning
`Buzz` into `BUZZ` leaves its byte size, the sum of the line sizes, as it was. The score adds the
two: 263 for 15 lines and 5852 for 300. -/
theorem fizzText_stats (n : Nat) :
    stats n = textStats (text n) ∧
    (stats n).fizzCount = (n + 2) / 3 ∧
    (stats n).fizzCount = ((range n).filter (3 ∣ ·)).card ∧
    (stats n).replacedLen = (text n).utf8ByteSize ∧
    (text n).utf8ByteSize = ∑ i ∈ range n, (13 + (Nat.log 10 i + 1) + (if 3 ∣ i then 4 else 0) +
      (if 5 ∣ i then 4 else 0) + (if ¬3 ∣ i ∧ ¬5 ∣ i then Nat.log 10 i + 1 else 0)) ∧
    score n = ∑ i ∈ range n, (13 + (Nat.log 10 i + 1) + (if 3 ∣ i then 4 else 0) +
      (if 5 ∣ i then 4 else 0) + (if ¬3 ∣ i ∧ ¬5 ∣ i then Nat.log 10 i + 1 else 0)) +
      (n + 2) / 3 ∧
    score 15 = 263 ∧ score 300 = 5852 := by
  have hcard : ((range n).filter (3 ∣ ·)).card = ∑ i ∈ range n, if i % 3 = 0 then 1 else 0 := by
    rw [card_filter]
    simp only [Nat.dvd_iff_mod_eq_zero]
  -- the score of `m` lines through the digit lists, where it can be evaluated
  have hscore : ∀ m, score m = ∑ i ∈ range m, lineBytes i + (m + 2) / 3 := fun m => by
    rw [score, Stats.score, stats_eq, sum_range_mod_three]
  refine ⟨by rw [stats_eq, textStats_text], by rw [stats_eq, sum_range_mod_three],
    by rw [stats_eq, hcard], by rw [stats_eq, utf8ByteSize_text], utf8ByteSize_text n,
    hscore n, ?_, ?_⟩
  · rw [hscore]
    simp only [lineBytes, ← length_toDigits]
    decide +kernel
  · rw [hscore]
    simp only [lineBytes, ← length_toDigits]
    decide +kernel

end CpuBench.FizzText
