import CpuBench.Harness.Violation
import CpuBench.Proofs.Binary64
import CpuBench.Proofs.Run

/-!
# Checking an assembled report

A report assembled from a table, by `Report.ofParts` or by recording the table's entries in a
`Builder` and finishing it, has the table's own combined result. So of the five rules that
`validate` checks in order, the third (the combined result matches the table) cannot fail once
the second (it is finite) has passed: a finite float equals itself. The fifth (the time is finite
and not negative) holds of every duration: its nanosecond count, converted to the nearest float
and divided by a million, is a finite float of at least `0.0` (`Duration.toMillis_isFinite`,
`Duration.zero_le_toMillis`).

What is left is decided by the table alone (`validate_assembled_report`): the key rule, then
whether the combined result is finite, then whether it is positive.
-/

namespace CpuBench

/-! ## Assembling a report -/

namespace Builder

/-- Recording entries whose names are new to the table and to each other appends them all, in
order. -/
theorem foldlM_record_entries (es : List (String × Float)) (b : Builder)
    (h : (b.results.keys ++ es.map Prod.fst).Nodup) :
    ∃ b', es.foldlM (fun (b : Builder) e => b.record e.1 e.2) b = .ok b' ∧
      b'.results.entries = b.results.entries ++ es := by
  induction es generalizing b with
  | nil => exact ⟨b, rfl, by simp⟩
  | cons e rest ih =>
    rw [List.map_cons] at h
    obtain ⟨m, hinsert, hentries, hkeys⟩ := ResultMap.insert_fresh b.results e.1 e.2 _ h
    obtain ⟨b', hrun, hb'⟩ := ih ⟨m⟩ (hkeys ▸ h)
    refine ⟨b', ?_, ?_⟩
    · rw [List.foldlM_cons, record, hinsert]
      exact hrun
    · rw [hb']
      simp [hentries]

/-- **The builder's report.** Recording a table's entries in order from the start and finishing
gives the report `Report.ofParts` assembles from the table. -/
theorem record_entries_finish (m : ResultMap) (elapsed : Duration) :
    (m.entries.foldlM (fun (b : Builder) e => b.record e.1 e.2) start).map (·.finish elapsed) =
      .ok (.ofParts m elapsed) := by
  obtain ⟨b, hrun, hb⟩ := foldlM_record_entries m.entries start m.nodup
  have hresults : b.results = m := ResultMap.ext hb
  rw [hrun, Except.map, finish, hresults]

end Builder

/-! ## The verdict on an assembled report -/

namespace Harness

variable (m : ResultMap) (d : Duration)

/-- The verdict on a report assembled from the table `m`: the key rule, then the combined
result's finiteness, then its sign. -/
theorem validate_ofParts :
    validate (.ofParts m d) =
      if m.keys ≠ Workload.all.map Workload.key then
        .error (.keys (Workload.all.map Workload.key) m.keys)
      else if m.truthySum.isFinite = false then .error (.nonFiniteCombined m.truthySum)
      else if m.truthySum ≤ 0.0 then .error (.nonPositiveCombined m.truthySum)
      else .ok () := by
  -- the time passes its rule whatever the table
  have helapsed : (!d.toMillis.isFinite || decide (d.toMillis < 0.0)) = false := by
    simp [d.toMillis_isFinite, Floats.not_lt_zero_of_zero_le d.zero_le_toMillis]
  unfold validate Report.ofParts
  by_cases hkeys : m.keys = Workload.all.map Workload.key
  · by_cases hc : m.truthySum.isFinite = true
    · -- a finite combined result equals its own recomputation
      have hsame : (m.truthySum != m.truthySum) = false := by
        simp [bne, Floats.beq_self_of_isFinite hc]
      by_cases hpos : m.truthySum ≤ 0.0
      · simp [hkeys, hc, hsame, hpos]
        rfl
      · simp [hkeys, hc, hsame, hpos, helapsed]
        rfl
    · simp [hkeys, hc]
      rfl
  · simp [hkeys]
    rfl

/-- **Validating an assembled report.** For any table `m` and any duration `d`, the report
assembled from `m` (by `ofParts`, or by the builder, which gives the same report) fails the key
rule when `m`'s names are not the catalogue's keys in order; else it is refused as not finite or
as not positive, or accepted, as its combined result is; and it never fails the match of the
combined result or the rule on the time. -/
theorem validate_assembled_report :
    (m.entries.foldlM (fun (b : Builder) e => b.record e.1 e.2) Builder.start).map (·.finish d) =
      .ok (.ofParts m d) ∧
    (m.keys ≠ Workload.all.map Workload.key →
      validate (.ofParts m d) = .error (.keys (Workload.all.map Workload.key) m.keys)) ∧
    (m.keys = Workload.all.map Workload.key → m.truthySum.isFinite = false →
      validate (.ofParts m d) = .error (.nonFiniteCombined m.truthySum)) ∧
    (m.keys = Workload.all.map Workload.key → m.truthySum.isFinite = true →
      m.truthySum ≤ 0.0 → validate (.ofParts m d) = .error (.nonPositiveCombined m.truthySum)) ∧
    (m.keys = Workload.all.map Workload.key → m.truthySum.isFinite = true →
      0.0 < m.truthySum → validate (.ofParts m d) = .ok ()) ∧
    (∀ reported recomputed,
      validate (.ofParts m d) ≠ .error (.combinedMismatch reported recomputed)) ∧
    ∀ totalMs, validate (.ofParts m d) ≠ .error (.invalidElapsed totalMs) := by
  have hverdict := validate_ofParts m d
  refine ⟨Builder.record_entries_finish m d, ?_, ?_, ?_, ?_, ?_, ?_⟩
  · intro hkeys
    rw [hverdict, if_pos hkeys]
  · intro hkeys hc
    rw [hverdict, if_neg (not_not.mpr hkeys), if_pos hc]
  · intro hkeys hc hle
    rw [hverdict, if_neg (not_not.mpr hkeys), if_neg (by simp [hc]), if_pos hle]
  · intro hkeys hc hpos
    rw [hverdict, if_neg (not_not.mpr hkeys), if_neg (by simp [hc]),
      if_neg ((Floats.zero_lt_iff_not_le_zero hc).mp hpos)]
  · intro reported recomputed
    rw [hverdict]
    split_ifs <;> simp
  · intro totalMs
    rw [hverdict]
    split_ifs <;> simp

/-- The table that gives every workload of the catalogue the result `x`, in catalogue order. -/
def catalogueTable (x : Float) : ResultMap :=
  ⟨Workload.all.map fun w => (w.key, x), by
    rw [List.map_map]
    exact (by decide +kernel : (Workload.all.map Workload.key).Nodup)⟩

/-- One second and 500 nanoseconds. -/
def sampleDuration : Duration :=
  ⟨1, 500, by decide, by decide⟩

/-- The verdicts on four tables assembled with one second and 500 nanoseconds: the empty table
fails the key rule; the catalogue's keys with results of one each are accepted, with results of
zero refused as not positive, and with infinite results refused as not finite. -/
theorem validate_assembled_sample_tables :
    (ResultMap.empty.keys ≠ Workload.all.map Workload.key ∧
      validate (.ofParts .empty sampleDuration) =
        .error (.keys (Workload.all.map Workload.key) ResultMap.empty.keys)) ∧
    ((catalogueTable 1.0).keys = Workload.all.map Workload.key ∧
      (catalogueTable 1.0).truthySum.isFinite = true ∧ 0.0 < (catalogueTable 1.0).truthySum ∧
      validate (.ofParts (catalogueTable 1.0) sampleDuration) = .ok ()) ∧
    ((catalogueTable 0.0).keys = Workload.all.map Workload.key ∧
      (catalogueTable 0.0).truthySum.isFinite = true ∧ (catalogueTable 0.0).truthySum ≤ 0.0 ∧
      validate (.ofParts (catalogueTable 0.0) sampleDuration) =
        .error (.nonPositiveCombined (catalogueTable 0.0).truthySum)) ∧
    ((catalogueTable (1.0 / 0.0)).keys = Workload.all.map Workload.key ∧
      (catalogueTable (1.0 / 0.0)).truthySum.isFinite = false ∧
      validate (.ofParts (catalogueTable (1.0 / 0.0)) sampleDuration) =
        .error (.nonFiniteCombined (catalogueTable (1.0 / 0.0)).truthySum)) := by
  have hempty : ResultMap.empty.keys ≠ Workload.all.map Workload.key := by decide +kernel
  have hkeys : ∀ x, (catalogueTable x).keys = Workload.all.map Workload.key := fun x => by
    simp [catalogueTable, ResultMap.keys]
  have hone : (catalogueTable 1.0).truthySum.isFinite = true ∧
      0.0 < (catalogueTable 1.0).truthySum := by decide +kernel
  have hzero : (catalogueTable 0.0).truthySum.isFinite = true ∧
      (catalogueTable 0.0).truthySum ≤ 0.0 := by decide +kernel
  have hinf : (catalogueTable (1.0 / 0.0)).truthySum.isFinite = false := by decide +kernel
  refine ⟨⟨hempty, (validate_assembled_report .empty sampleDuration).2.1 hempty⟩,
    ⟨hkeys 1.0, hone.1, hone.2, ?_⟩, ⟨hkeys 0.0, hzero.1, hzero.2, ?_⟩, ⟨hkeys _, hinf, ?_⟩⟩
  · exact (validate_assembled_report _ sampleDuration).2.2.2.2.1 (hkeys 1.0) hone.1 hone.2
  · exact (validate_assembled_report _ sampleDuration).2.2.2.1 (hkeys 0.0) hzero.1 hzero.2
  · exact (validate_assembled_report _ sampleDuration).2.2.1 (hkeys _) hinf

end Harness

end CpuBench
