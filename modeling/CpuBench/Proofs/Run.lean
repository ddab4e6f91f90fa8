import CpuBench.Report.Run
import CpuBench.Proofs.ResultTable
import CpuBench.Proofs.Records
import CpuBench.Proofs.Matrix

/-!
# A run records every workload once, in order

A run executes its workloads one after another and records each result under the workload's key
in the report's table. Three facts decide its outcome:

* a key names one workload (`ofKey?_key`), so a repeated key is a repeated workload;
* every workload succeeds on its fixed parameter (`execute_ok`): the Fibonacci inputs are below
  94, the records' cubes and the matrix product's partial sums stay words;
* recording goes through the table, which takes a key new to it (`ResultMap.insert_fresh`) and
  refuses a key it holds (`foldlM_record_ok`, `foldlM_record_repeat`).

So a run stops at the first workload that repeats an earlier one, and otherwise records all
results in list order (`runWorkloads_outcome`).
-/

namespace CpuBench

open Word

/-! ## The catalogue -/

/-- The key of a workload names it. -/
theorem Workload.ofKey?_key (w : Workload) : Workload.ofKey? w.key = some w := by
  cases w <;> rfl

/-- Distinct workloads have distinct keys. -/
theorem Workload.key_injective : Function.Injective Workload.key := by
  intro a b hab
  have h := Workload.ofKey?_key a
  rw [hab, Workload.ofKey?_key] at h
  exact (Option.some.inj h).symm

/-- **Every workload succeeds on its fixed parameter.** -/
theorem Workload.execute_ok (w : Workload) : ∃ v, w.execute = .ok v := by
  cases w with
  | fibRecursive =>
    have hfit : Fibonacci.fib 20 < u64Size := Fibonacci.fib_lt_u64Size_iff.mpr (by decide)
    exact ⟨_, by rw [execute, parameter, executeOn, Fibonacci.recursive_eq_checkU64,
      checkU64_of_lt hfit]; rfl⟩
  | fibIterative =>
    have hfit : Fibonacci.fib 40 < u64Size := Fibonacci.fib_lt_u64Size_iff.mpr (by decide)
    exact ⟨_, by rw [execute, parameter, executeOn, Fibonacci.iterative_eq_checkU64,
      checkU64_of_lt hfit]; rfl⟩
  | primes => exact ⟨_, rfl⟩
  | objectOps =>
    obtain ⟨total, htotal⟩ := Records.totalWeight_ok (n := 500) (by decide)
    exact ⟨_, by rw [execute, parameter, executeOn, htotal]; rfl⟩
  | arrayOps => exact ⟨_, rfl⟩
  | stringOps => exact ⟨_, rfl⟩
  | matrixMultiply =>
    obtain ⟨v, hv⟩ := Matrix.productSum_ok (n := 25) (by decide)
    exact ⟨_, by rw [execute, parameter, executeOn, hv]; rfl⟩

/-! ## Recording results -/

/-- A workload's key finds its own result among the results of a list of workloads. -/
theorem lookup_key_of_mem (value : Workload → Float) {ws : List Workload} {w : Workload}
    (hw : w ∈ ws) :
    (ws.map fun w' => (w'.key, value w')).lookup w.key = some (value w) := by
  induction ws with
  | nil => cases hw
  | cons w' rest ih =>
    by_cases h : w = w'
    · subst h
      simp
    · have hne : w.key ≠ w'.key := fun hk => h (Workload.key_injective hk)
      rw [List.map_cons, ResultMap.lookup_cons_of_ne _ hne]
      exact ih (List.mem_of_ne_of_mem h hw)

/-- Recording a name new to the table and to the names still to come appends its entry, and the
names still to come are then new to the table it gives. -/
theorem ResultMap.insert_fresh (m : ResultMap) (key : String) (value : Float) (keys : List String)
    (h : (m.keys ++ key :: keys).Nodup) :
    ∃ m', m.insert key value = .ok m' ∧ m'.entries = m.entries ++ [(key, value)] ∧
      m'.keys ++ keys = m.keys ++ key :: keys := by
  have hfresh : key ∉ m.keys := fun hmem =>
    List.disjoint_of_nodup_append h hmem List.mem_cons_self
  obtain ⟨m', hinsert, hentries⟩ := @ResultMap.insert_of_not_mem m key value hfresh
  refine ⟨m', hinsert, hentries, ?_⟩
  simp [ResultMap.keys, hentries]

section Recording

variable {value : Workload → Float} (hvalue : ∀ w : Workload, w.execute = .ok (value w))

include hvalue

/-- One step of a run records the workload's result under its key. -/
theorem recordStep_eq (b : Builder) (w : Workload) :
    (do b.recordWorkload w (← w.executeOn w.parameter)) = b.record w.key (value w) := by
  rw [show w.executeOn w.parameter = w.execute from rfl, hvalue, ok_bind]
  rfl

/-- **Recording new keys.** Workloads whose keys are new to the table and to each other are all
recorded, their results last and in list order. -/
theorem foldlM_record_ok (ws : List Workload) (b : Builder)
    (h : (b.results.keys ++ ws.map Workload.key).Nodup) :
    ∃ b', ws.foldlM (fun b w => do b.recordWorkload w (← w.executeOn w.parameter)) b = .ok b' ∧
      b'.results.entries = b.results.entries ++ ws.map fun w => (w.key, value w) := by
  induction ws generalizing b with
  | nil => exact ⟨b, rfl, by simp⟩
  | cons w rest ih =>
    rw [List.map_cons] at h
    obtain ⟨m, hinsert, hentries, hkeys⟩ := ResultMap.insert_fresh b.results w.key (value w) _ h
    obtain ⟨b', hrun, hb'⟩ := ih ⟨m⟩ (hkeys ▸ h)
    refine ⟨b', ?_, ?_⟩
    · rw [List.foldlM_cons, recordStep_eq hvalue, Builder.record, hinsert]
      exact hrun
    · rw [hb']
      simp [hentries]

/-- **Recording a repeated key.** Once a workload's key is in the table or among the new keys
before it, the run stops there with the fault that names the key. -/
theorem foldlM_record_repeat (pre : List Workload) (w : Workload) (post : List Workload)
    (b : Builder) (hpre : (b.results.keys ++ pre.map Workload.key).Nodup)
    (hw : w.key ∈ b.results.keys ++ pre.map Workload.key) :
    (pre ++ w :: post).foldlM (fun b w => do b.recordWorkload w (← w.executeOn w.parameter)) b =
      .error (.duplicateKey w.key) := by
  induction pre generalizing b with
  | nil =>
    rw [List.map_nil, List.append_nil] at hw
    rw [List.nil_append, List.foldlM_cons, recordStep_eq hvalue, Builder.record,
      ResultMap.insert_of_mem hw]
    rfl
  | cons p pre ih =>
    rw [List.map_cons] at hpre hw
    obtain ⟨m, hinsert, -, hkeys⟩ := ResultMap.insert_fresh b.results p.key (value p) _ hpre
    rw [List.cons_append, List.foldlM_cons, recordStep_eq hvalue, Builder.record, hinsert]
    -- the table after `p` holds the same names as before, `p`'s now among its own
    exact ih ⟨m⟩ (hkeys ▸ hpre) (hkeys ▸ hw)

end Recording

/-- **What a run of workloads gives.** Keys name workloads; every workload succeeds on its fixed
parameter; a run stops at the first workload that repeats an earlier one (`pre` is the part
before it, without repeats), with the fault naming its key; a run of distinct workloads records
their keys and results in list order, finds each result under its key and combines the results
in list order; and the full benchmark records the catalogue's keys in catalogue order. -/
theorem runWorkloads_outcome :
    Function.Injective Workload.key ∧
      ∃ value : Workload → Float, (∀ w : Workload, w.execute = .ok (value w)) ∧
        (∀ (pre : List Workload) (w : Workload) (post : List Workload), pre.Nodup → w ∈ pre →
          runWorkloads (pre ++ w :: post) = .error (.duplicateKey w.key)) ∧
        (∀ ws : List Workload, ws.Nodup → ∃ b, runWorkloads ws = .ok b ∧
          b.results.keys = ws.map Workload.key ∧ b.results.values = ws.map value ∧
          (∀ w ∈ ws, b.results.get? w.key = some (value w)) ∧
          ∀ elapsed, (b.finish elapsed).combined = truthySum (ws.map value)) ∧
        ∃ b, runBenchmark = .ok b ∧ b.results.keys = Workload.all.map Workload.key := by
  choose value hvalue using Workload.execute_ok
  -- a run of distinct workloads holds exactly their entries
  have hdistinct : ∀ ws : List Workload, ws.Nodup → ∃ b, runWorkloads ws = .ok b ∧
      b.results.entries = ws.map fun w => (w.key, value w) := by
    intro ws hws
    obtain ⟨b, hrun, hentries⟩ := foldlM_record_ok hvalue ws Builder.start
      ((List.nodup_map_iff Workload.key_injective).mpr hws)
    exact ⟨b, hrun, by simpa [Builder.start, ResultMap.empty] using hentries⟩
  refine ⟨Workload.key_injective, value, hvalue, ?_, ?_, ?_⟩
  · intro pre w post hpre hw
    exact foldlM_record_repeat hvalue pre w post Builder.start
      ((List.nodup_map_iff Workload.key_injective).mpr hpre)
      (List.mem_map_of_mem hw)
  · intro ws hws
    obtain ⟨b, hrun, hentries⟩ := hdistinct ws hws
    refine ⟨b, hrun, ?_, ?_, ?_, ?_⟩
    · simp [ResultMap.keys, hentries]
    · simp [ResultMap.values, hentries]
    · intro w hw
      rw [ResultMap.get?_eq_lookup, hentries]
      exact lookup_key_of_mem value hw
    · intro elapsed
      simp [Builder.finish, Report.ofParts, ResultMap.truthySum, ResultMap.values, hentries,
        Function.comp_def]
  · obtain ⟨b, hrun, hentries⟩ := hdistinct Workload.all (by decide)
    exact ⟨b, hrun, by simp [ResultMap.keys, hentries]⟩

end CpuBench
