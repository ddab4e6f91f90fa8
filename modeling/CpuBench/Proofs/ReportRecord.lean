import CpuBench.Output.Record
import CpuBench.Proofs.ResultTable

/-!
# A report's record reads back as the report

The record of a report carries the report's data form as its metrics, in which every float that
is not finite has become `null`. Reading the metrics as a report takes the fields apart again
one by one: a written float reads back as itself when finite, and `null` is refused
(`floatOf?_ofFloat`); the written table reads back entry by entry onto the empty table
(`foldlM_upsert_written`), each name new, so in the same order. Hence:

* `asReport_ofReport` — the round trip gives back exactly the report when all its numbers are
  finite, and nothing as soon as one of them is not;
* `asReport_ofSummary` — a harness summary's metrics have no table, so they never read as a
  report.
-/

namespace CpuBench

open Json

namespace Report

/-- Every number of a report is finite: each result, the combined result and the time. -/
def AllFinite (r : Report) : Prop :=
  (∀ v ∈ r.results.values, v.isFinite = true) ∧ r.combined.isFinite = true ∧
    r.totalMs.isFinite = true

instance (r : Report) : Decidable r.AllFinite :=
  inferInstanceAs (Decidable (_ ∧ _ ∧ _))

/-- A float written as data reads back as itself when finite; `null` reads as nothing. -/
@[simp] theorem floatOf?_ofFloat (x : Float) :
    floatOf? (Value.ofFloat x) = if x.isFinite then some x else none := by
  unfold Value.ofFloat
  split <;> rfl

end Report

/-- Recording a name the table does not hold appends it. -/
theorem ResultMap.upsert_entries_of_not_mem {m : ResultMap} {key : String} (h : key ∉ m.keys)
    (value : Float) : (m.upsert key value).entries = m.entries ++ [(key, value)] := by
  unfold ResultMap.upsert
  rw [dif_neg h]

namespace Report

/-- **Reading a written table.** Entries written as data and read back onto a table `m` that
holds none of their names are appended in order when all their results are finite; the first
result that is not finite stops the reading. `step` is one reading step: a finite result is
recorded, `null` is refused. -/
theorem foldlM_upsert_written (step : ResultMap → String × Value → Option ResultMap)
    (hstep : ∀ m key x,
      step m (key, Value.ofFloat x) = if x.isFinite then some (m.upsert key x) else none)
    (es : List (String × Float)) (m : ResultMap)
    (hnodup : ((m.entries ++ es).map Prod.fst).Nodup) :
    (es.map fun e => (e.1, Value.ofFloat e.2)).foldlM step m =
      if ∀ e ∈ es, e.2.isFinite = true then some ⟨m.entries ++ es, hnodup⟩ else none := by
  induction es generalizing m with
  | nil =>
    rw [if_pos (fun _ h => absurd h List.not_mem_nil)]
    simp only [List.map_nil, List.foldlM_nil, List.append_nil]
    rfl
  | cons e rest ih =>
    obtain ⟨key, x⟩ := e
    rw [List.map_cons, List.foldlM_cons, hstep]
    by_cases hx : x.isFinite = true
    · -- the name is new, so the step appends it and the rest reads onto the longer table
      have hkey : key ∉ m.keys := by
        intro hmem
        rw [List.map_append, List.nodup_append] at hnodup
        exact hnodup.2.2 key hmem key (List.mem_cons_self ..) rfl
      have hentries := ResultMap.upsert_entries_of_not_mem hkey x
      have hnodup' : (((m.upsert key x).entries ++ rest).map Prod.fst).Nodup := by
        rw [hentries, List.append_assoc]
        exact hnodup
      rw [if_pos hx, Option.bind_eq_bind, Option.bind_some, ih (m.upsert key x) hnodup']
      simp only [List.mem_cons, forall_eq_or_imp, hx, true_and]
      split <;> simp only [Option.some.injEq]
      apply ResultMap.ext
      simp only [hentries, List.append_assoc, List.singleton_append]
    · -- a result that is not finite was written as `null`, which stops the reading
      have hall : ¬ ∀ e ∈ (key, x) :: rest, e.2.isFinite = true :=
        fun hall => hx (hall (key, x) List.mem_cons_self)
      rw [if_neg hx, if_neg hall]
      rfl

/-- The written table reads back as the table itself when all its results are finite. -/
theorem resultsOf?_written (m : ResultMap) :
    resultsOf? (.object (m.entries.map fun e => (e.1, Value.ofFloat e.2))) =
      if ∀ v ∈ m.values, v.isFinite = true then some m else none := by
  rw [resultsOf?, foldlM_upsert_written _ ?step m.entries ResultMap.empty m.nodup]
  case step =>
    intro m key x
    show (floatOf? (Value.ofFloat x)).bind (fun v => some (m.upsert key v)) = _
    rw [floatOf?_ofFloat]
    split <;> rfl
  simp only [ResultMap.values, List.forall_mem_map]
  rfl

end Report

namespace Output.Record

/-- **The round trip of a report.** The record of a report reads back as exactly that report,
names in the same order, when every number of it is finite, and as nothing as soon as one of
them is NaN or infinite. -/
theorem asReport_ofReport (r : Report) (t : Time.Instant) :
    (ofReport r t).asReport? = if r.AllFinite then some r else none := by
  simp only [asReport?, ofReport, Report.toValue, Report.ofValue?, List.find?_cons,
    String.reduceBEq, Option.map_some, Option.bind_eq_bind, Option.bind_some,
    Report.resultsOf?_written, Report.floatOf?_ofFloat]
  by_cases hall : r.AllFinite
  · obtain ⟨hres, hc, ht⟩ := hall
    rw [if_pos hres, if_pos hc, if_pos ht, if_pos ⟨hres, hc, ht⟩]
    rfl
  · -- the first number that is not finite ends the reading
    rw [if_neg hall]
    simp only [Report.AllFinite, not_and_or] at hall
    rcases hall with hres | hc | ht
    · rw [if_neg hres]
      rfl
    · rw [if_neg hc]
      split <;> rfl
    · rw [if_neg ht]
      split <;> split <;> rfl

/-- A harness summary's metrics never read as a report: they have no table of results. -/
theorem asReport_ofSummary (s : Harness.Summary) (t : Time.Instant) :
    (ofSummary s t).asReport? = none := by
  simp [asReport?, ofSummary, summaryMetrics, Report.ofValue?]

/-- **Records as reports.** A report's record decodes to the report itself exactly when all its
numbers are finite, and to nothing otherwise; a harness summary's record never decodes as a
report. -/
theorem report_record_round_trip :
    (∀ (r : Report) (t : Time.Instant),
      (ofReport r t).asReport? = if r.AllFinite then some r else none) ∧
    ∀ (s : Harness.Summary) (t : Time.Instant), (ofSummary s t).asReport? = none :=
  ⟨asReport_ofReport, asReport_ofSummary⟩

end Output.Record

end CpuBench
