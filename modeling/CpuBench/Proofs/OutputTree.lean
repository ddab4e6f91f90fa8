import Mathlib.Data.List.Induction
import Mathlib.Data.List.Nodup
import CpuBench.Output.Files

/-!
# The output tree is exactly what the format asks for

The tree is a list of paths with their contents, and a write replaces the file of its path
(`putFile`). Every record writes `raw/<name>`, its target with each `/` made `_` and `.json`
appended; this is not injective (`a/b` and `a_b` meet), so a later record of the same file
name replaces the earlier one. What is left is stated without the fold:

* `mem_rawFiles` — the per-target files are those of `lastNamed`, the last record of each file
  name, and no path occurs twice (`rawFiles_nodup`);
* `mem_outputs`, `outputs_nodup` — the whole tree is `raw/`, the per-target files and
  `all_results.json` with JSON, and the two Markdown views with Markdown, each path once;
* `inside_of_mem_outputs` — every path is `raw/`, a fixed file name, or one plain file name
  inside `raw/` (no `/`, not `.` or `..`), so nothing is written outside the directory.

`output_tree_exact` adds that with every file name accepted the checked write succeeds.
-/

namespace CpuBench.Output

/-! ## Paths -/

/-- A file of `raw/` is joined to it with one `/`. -/
theorem joinPath_rawDir (name : String) : joinPath rawDir name = rawDir ++ "/" ++ name := by
  unfold joinPath
  rw [if_neg (by decide +kernel), if_neg (by decide +kernel)]

/-- Two files of `raw/` have one path exactly when their names agree. -/
theorem rawPath_inj {a b : String} : rawDir ++ "/" ++ a = rawDir ++ "/" ++ b ↔ a = b :=
  String.append_right_inj _

/-- The characters of a record's file name: its target's, each `/` made `_`, then `.json`. -/
theorem toList_rawFileName (targetId : String) :
    (rawFileName targetId).toList =
      targetId.toList.map (fun c => if c == '/' then '_' else c) ++ ".json".toList := by
  rw [rawFileName, String.toList_append, String.toList_map]

-- flattening is not injective: two targets can share one file
example : rawFileName "a/b" = rawFileName "a_b" := by decide +kernel

/-- A path whose first character is not `r` is no file of `raw/`. -/
theorem ne_rawPath_of_head (path : String) (c : Char) (hpath : path.toList.head? = some c)
    (hc : c ≠ 'r') (name : String) : path ≠ rawDir ++ "/" ++ name := by
  rintro rfl
  simp [rawDir, String.toList_append] at hpath
  exact hc hpath.symm

/-- The `raw/` directory is none of its own files: a file name is never empty. -/
theorem rawDir_ne_rawPath (targetId : String) :
    rawDir ++ "/" ≠ rawDir ++ "/" ++ rawFileName targetId := by
  intro h
  have hempty : ("" : String) = rawFileName targetId :=
    rawPath_inj.mp (by rw [String.append_empty]; exact h)
  have hlen := congrArg (List.length ∘ String.toList) hempty
  simp [toList_rawFileName] at hlen

/-- A name that stays inside one directory: it has no `/` and is not `.` or `..`. -/
def IsPlainName (name : String) : Prop :=
  '/' ∉ name.toList ∧ name ≠ "." ∧ name ≠ ".."

/-- A record's file name is a plain name: every `/` became `_`, and `.json` makes it longer
than `..`. -/
theorem rawFileName_plain (targetId : String) : IsPlainName (rawFileName targetId) := by
  have hlen : 5 ≤ (rawFileName targetId).toList.length := by
    simp [toList_rawFileName]
  refine ⟨?_, ?_, ?_⟩
  · rw [toList_rawFileName]
    simp only [List.mem_append, List.mem_map, not_or]
    refine ⟨?_, by decide⟩
    rintro ⟨c, -, hc⟩
    split at hc <;> simp_all
  · rintro h
    rw [h] at hlen
    exact absurd hlen (by decide)
  · rintro h
    rw [h] at hlen
    exact absurd hlen (by decide)

/-- A path of the tree that names `raw/`, one of the fixed files, or a plain name in `raw/`. -/
def InsideOutput (path : String) : Prop :=
  path = rawDir ++ "/" ∨ path = allResultsFile ∨ path = summaryFile ∨ path = detailedFile ∨
    ∃ name, IsPlainName name ∧ path = rawDir ++ "/" ++ name

/-! ## One write -/

/-- After a write, the tree holds the new file and every other path as before. -/
theorem mem_putFile {tree : List Entry} {path text : String} {e : Entry} :
    e ∈ putFile tree path text ↔ (e ∈ tree ∧ e.1 ≠ path) ∨ e = (path, some text) := by
  simp [putFile, List.mem_filter, bne_iff_ne]

/-- A write keeps every path of the tree at most once. -/
theorem putFile_nodup {tree : List Entry} (htree : (tree.map Prod.fst).Nodup)
    (path text : String) : ((putFile tree path text).map Prod.fst).Nodup := by
  have hkept : ((tree.filter (·.1 != path)).map Prod.fst).Nodup :=
    htree.sublist ((List.filter_sublist).map Prod.fst)
  rw [putFile, List.map_append, List.nodup_append]
  refine ⟨hkept, List.nodup_singleton _, ?_⟩
  intro a ha b hb
  simp only [List.map_cons, List.map_nil, List.mem_singleton] at hb
  obtain ⟨e, he, rfl⟩ := List.mem_map.mp ha
  simp only [List.mem_filter, bne_iff_ne] at he
  rw [hb]
  exact he.2

/-! ## The per-target files -/

/-- The last record whose file name is `name`: no later record replaces its file. -/
def lastNamed (records : List Record) (name : String) : Option Record :=
  (records.filter fun r => rawFileName r.targetId == name).getLast?

/-- A record appended last is the last of its file name and leaves the others as they were. -/
theorem lastNamed_append_single (records : List Record) (r : Record) (name : String) :
    lastNamed (records ++ [r]) name =
      if rawFileName r.targetId = name then some r else lastNamed records name := by
  unfold lastNamed
  rw [List.filter_append]
  split <;> simp [*]

/-- The files after one more record: its own file, written over any earlier of its name. -/
theorem rawFiles_append_single (records : List Record) (r : Record) :
    rawFiles (records ++ [r]) =
      putFile (rawFiles records) (rawDir ++ "/" ++ rawFileName r.targetId)
        r.toValue.prettyText := by
  rw [rawFiles, List.foldl_append, ← joinPath_rawDir]
  rfl

/-- **The per-target files.** There is one file for each file name of a record, holding the
last record of that name. -/
theorem mem_rawFiles {records : List Record} {e : Entry} :
    e ∈ rawFiles records ↔ ∃ r, lastNamed records (rawFileName r.targetId) = some r ∧
      e = (rawDir ++ "/" ++ rawFileName r.targetId, some r.toValue.prettyText) := by
  -- by the records from the last: the last record's file is written over its name's
  induction records using List.reverseRecOn generalizing e with
  | nil => simp [rawFiles, lastNamed]
  | append_singleton records x ih =>
    rw [rawFiles_append_single, mem_putFile, ih]
    constructor
    · rintro (⟨⟨r, hr, rfl⟩, hne⟩ | rfl)
      · refine ⟨r, ?_, rfl⟩
        rw [lastNamed_append_single, if_neg (fun h => hne (by rw [h]))]
        exact hr
      · exact ⟨x, by rw [lastNamed_append_single, if_pos rfl], rfl⟩
    · rintro ⟨r, hr, rfl⟩
      rw [lastNamed_append_single] at hr
      split at hr
      · cases hr
        exact Or.inr rfl
      · exact Or.inl ⟨⟨r, hr, rfl⟩, fun h => ‹¬_› (rawPath_inj.mp h).symm⟩

/-- The per-target files have distinct paths. -/
theorem rawFiles_nodup (records : List Record) : ((rawFiles records).map Prod.fst).Nodup := by
  induction records using List.reverseRecOn with
  | nil => exact List.nodup_nil
  | append_singleton records x ih =>
    rw [rawFiles_append_single]
    exact putFile_nodup ih _ _

/-! ## The whole tree -/

section Tree

variable (records : List Record) (format : Config.OutputFormat) (summaryAt detailedAt : String)

/-- What the tree holds: the `raw/` directory; with JSON, the file of each file name with the
last record of that name, and all records; with Markdown, the summary stamped `summaryAt` and
the detailed view stamped `detailedAt`. -/
def Expected (e : Entry) : Prop :=
  e = (rawDir ++ "/", none) ∨
  (format.includesJson = true ∧
    ((∃ r, lastNamed records (rawFileName r.targetId) = some r ∧
        e = (rawDir ++ "/" ++ rawFileName r.targetId, some r.toValue.prettyText)) ∨
      e = (allResultsFile, some (resultsJson records)))) ∨
  (format.includesMarkdown = true ∧
    (e = (summaryFile, some (summary summaryAt records)) ∨
      e = (detailedFile, some (detailed detailedAt records))))

/-- **The tree's entries** are exactly the expected ones. -/
theorem mem_outputs {e : Entry} :
    e ∈ outputs records format summaryAt detailedAt ↔ Expected records format summaryAt detailedAt e := by
  rw [outputs, List.mem_mergeSort, treeEntries, Expected]
  cases format <;> simp [mem_rawFiles, Config.OutputFormat.includesJson,
    Config.OutputFormat.includesMarkdown, or_assoc]

/-- **No path occurs twice** in the tree. -/
theorem outputs_nodup : ((outputs records format summaryAt detailedAt).map Prod.fst).Nodup := by
  have hperm := (List.mergeSort_perm (treeEntries records format summaryAt detailedAt)
    fun a b => decide (a.1 ≤ b.1)).map Prod.fst
  rw [outputs, hperm.nodup_iff]
  -- the fixed paths are distinct literals, and none of them is a file of `raw/`
  have hfixed : [rawDir ++ "/", allResultsFile, summaryFile, detailedFile].Nodup := by
    decide +kernel
  have hraw : ∀ e ∈ rawFiles records,
      e.1 ∉ [rawDir ++ "/", allResultsFile, summaryFile, detailedFile] := by
    intro e he
    obtain ⟨r, -, rfl⟩ := mem_rawFiles.mp he
    simp only [List.mem_cons, List.not_mem_nil, or_false, not_or]
    refine ⟨(rawDir_ne_rawPath _).symm, ?_, ?_, ?_⟩
    · exact (ne_rawPath_of_head allResultsFile 'a' (by decide +kernel) (by decide) _).symm
    · exact (ne_rawPath_of_head summaryFile 's' (by decide +kernel) (by decide) _).symm
    · exact (ne_rawPath_of_head detailedFile 'd' (by decide +kernel) (by decide) _).symm
  have hnodup := rawFiles_nodup records
  cases format <;> simp_all [treeEntries, Config.OutputFormat.includesJson,
    Config.OutputFormat.includesMarkdown, List.nodup_append] <;> grind

/-- **Nothing is written outside the directory.** -/
theorem inside_of_mem_outputs {e : Entry} (he : e ∈ outputs records format summaryAt detailedAt) :
    InsideOutput e.1 := by
  rcases (mem_outputs records format summaryAt detailedAt).mp he with
    rfl | ⟨-, ⟨r, -, rfl⟩ | rfl⟩ | ⟨-, rfl | rfl⟩
  · exact Or.inl rfl
  · exact Or.inr (Or.inr (Or.inr (Or.inr ⟨_, rawFileName_plain r.targetId, rfl⟩)))
  · exact Or.inr (Or.inl rfl)
  · exact Or.inr (Or.inr (Or.inl rfl))
  · exact Or.inr (Or.inr (Or.inr (Or.inl rfl)))

/-- With every file name accepted, the checked write succeeds with the whole tree. -/
theorem checkedOutputs_of_names
    (hnames : ∀ r ∈ records, nameFault? (rawFileName r.targetId) = none) :
    checkedOutputs records format summaryAt detailedAt = .ok (outputs records format summaryAt detailedAt) := by
  have hnone : records.findSome? (fun r => nameFault? (rawFileName r.targetId)) = none :=
    List.findSome?_eq_none_iff.mpr hnames
  simp only [checkedOutputs, hnone, ite_self]

/-- **Writing the outputs.** When every record's file name is accepted, the write succeeds, and
the tree holds exactly `raw/`, with JSON the file of the last record of each file name and all
records, with Markdown the two views; each path once, none outside the directory. -/
theorem output_tree_exact
    (hnames : ∀ r ∈ records, nameFault? (rawFileName r.targetId) = none) :
    checkedOutputs records format summaryAt detailedAt = .ok (outputs records format summaryAt detailedAt) ∧
    (∀ e, e ∈ outputs records format summaryAt detailedAt ↔ Expected records format summaryAt detailedAt e) ∧
    ((outputs records format summaryAt detailedAt).map Prod.fst).Nodup ∧
    ∀ e ∈ outputs records format summaryAt detailedAt, InsideOutput e.1 :=
  ⟨checkedOutputs_of_names records format summaryAt detailedAt hnames,
    fun _ => mem_outputs records format summaryAt detailedAt, outputs_nodup records format summaryAt detailedAt,
    fun _ => inside_of_mem_outputs records format summaryAt detailedAt⟩

end Tree

/-- A file system accepts a name without a NUL byte and of at most 255 bytes. -/
theorem nameFault?_eq_none_iff {name : String} :
    nameFault? name = none ↔ '\x00' ∉ name.toList ∧ name.utf8ByteSize ≤ nameLimit := by
  unfold nameFault?
  rw [String.any, String.contains_bool_eq]
  split_ifs with hnul hlong <;> simp_all

/-- Two targets whose file names meet: `a/b` and `a_b` both write `raw/a_b.json`. -/
def collidingRecords : List Record :=
  [⟨"a/b", .null, ⟨0, 0, 0⟩⟩, ⟨"a_b", .string "later", ⟨0, 0, 0⟩⟩]

/-- The tree written for two targets that meet in one file name. -/
theorem output_tree_of_colliding_targets :
    (∀ r ∈ collidingRecords, nameFault? (rawFileName r.targetId) = none) ∧
    checkedOutputs collidingRecords .both "" "" = .ok (outputs collidingRecords .both "" "") ∧
    (∀ e, e ∈ outputs collidingRecords .both "" "" ↔ Expected collidingRecords .both "" "" e) ∧
    ((outputs collidingRecords .both "" "").map Prod.fst).Nodup ∧
    ∀ e ∈ outputs collidingRecords .both "" "", InsideOutput e.1 := by
  have hnames : ∀ r ∈ collidingRecords, nameFault? (rawFileName r.targetId) = none := by
    intro r hr
    simp only [collidingRecords, List.mem_cons, List.not_mem_nil, or_false] at hr
    rcases hr with rfl | rfl
    · exact nameFault?_eq_none_iff.mpr ⟨by decide +kernel, by decide +kernel⟩
    · exact nameFault?_eq_none_iff.mpr ⟨by decide +kernel, by decide +kernel⟩
  exact ⟨hnames, output_tree_exact collidingRecords .both "" "" hnames⟩

end CpuBench.Output
