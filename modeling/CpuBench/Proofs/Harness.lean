import Mathlib.Logic.Function.Iterate
import CpuBench.Harness.Summary
import CpuBench.Proofs.Outcome

/-!
# The harness stops at the first bad call, and otherwise sums up every call

The harness calls a driver, a closure with a state of its own, once per iteration and checks
each answer. Call `k` answers whatever the driver answers in the state that the first `k - 1`
calls left (`answer`); a call *passes* when it gives a report that breaks no rule.

* `Tally.call_pass`, `Tally.call_fault`, `Tally.call_invalid` — one call, by what it answers;
* `callsFrom_pass` — when every call passes, the loop makes all of them and adds every report;
* `callsFrom_stop` — the first call that does not pass ends the loop right after it, with the
  failure that names it;
* `foldl_add` — adding reports in call order sums their times from `0.0`, folds `minNum` from
  infinity and `maxNum` from `0.0`, and keeps the last report.

`runIterationsFrom_outcome` puts these together over every count and every driver. The loop is
the one the program runs in `IO` (`runIterationsM`), taken in the monad of a state passed from
call to call.
-/

namespace CpuBench.Harness

variable {σ : Type}

/-- The state a driver started in `s` is in after `k` calls. -/
def stateAfter (driver : σ → Except BenchError Report × σ) (s : σ) (k : Nat) : σ :=
  (Prod.snd ∘ driver)^[k] s

/-- What call `k`, counted from 1, of a driver started in `s` answers. -/
def answer (driver : σ → Except BenchError Report × σ) (s : σ) (k : Nat) :
    Except BenchError Report :=
  (driver (stateAfter driver s (k - 1))).1

/-- A call passes when it answers a report that breaks no rule. -/
def Passes (outcome : Except BenchError Report) : Prop :=
  ∃ r, outcome = .ok r ∧ validate r = .ok ()

/-- One more call moves the driver from the state after the first. -/
theorem stateAfter_succ (driver : σ → Except BenchError Report × σ) (s : σ) (k : Nat) :
    stateAfter driver s (k + 1) = stateAfter driver (driver s).2 k :=
  Function.iterate_succ_apply _ k s

/-! ## One call -/

/-- A call that passes adds its report to the totals. -/
theorem Tally.call_pass {t : Tally} {k : Nat} {r : Report} (hr : validate r = .ok ()) :
    t.call k (.ok r) = .ok (t.add r) := by
  rw [Tally.call, mapError_ok, ok_bind, hr, mapError_ok, ok_bind]
  rfl

/-- A call that fails is the workload failure of its number. -/
theorem Tally.call_fault (t : Tally) (k : Nat) (e : BenchError) :
    t.call k (.error e) = .error (.workload k e) :=
  rfl

/-- A call whose report breaks a rule is the invalid-report failure of its number. -/
theorem Tally.call_invalid {t : Tally} {k : Nat} {r : Report} {v : Violation}
    (hv : validate r = .error v) :
    t.call k (.ok r) = .error (.invalidReport k v) := by
  rw [Tally.call, mapError_ok, ok_bind, hv, mapError_error, error_bind]

/-! ## The loop -/

/-- One turn of the loop: the driver answers, the answer is checked, and the loop goes on from
the driver's next state unless the call failed. -/
theorem callsFrom_succ (driver : σ → Except BenchError Report × σ) (r k : Nat) (t : Tally)
    (s : σ) :
    Tally.callsFrom driver (r + 1) k t s =
      match t.call k (driver s).1 with
      | .ok t => Tally.callsFrom driver r (k + 1) t (driver s).2
      | .error f => (.error f, (driver s).2) := by
  rcases hd : driver s with ⟨o, s'⟩
  simp only [Tally.callsFrom, Tally.callsM, bind, StateT.bind, StateT.run, hd]
  cases t.call k o <;> rfl

/-- A first call that passes adds its report and hands the rest of the loop the driver's next
state. -/
theorem callsFrom_succ_of_pass {driver : σ → Except BenchError Report × σ} {r k : Nat}
    {t : Tally} {s : σ} {rep : Report} (hfirst : (driver s).1 = .ok rep)
    (hvalid : validate rep = .ok ()) :
    Tally.callsFrom driver (r + 1) k t s = Tally.callsFrom driver r (k + 1) (t.add rep) (driver s).2 := by
  rw [callsFrom_succ, hfirst, Tally.call_pass hvalid]

/-- **Every call passes.** Then the loop makes all `r` calls, adds every report in call order
and leaves the driver in the state after `r` calls. -/
theorem callsFrom_pass (driver : σ → Except BenchError Report × σ) (r k : Nat) (t : Tally)
    (s : σ) (rs : List Report) (hlen : rs.length = r)
    (hpass : ∀ i (hi : i < rs.length), (driver (stateAfter driver s i)).1 = .ok rs[i] ∧
      validate rs[i] = .ok ()) :
    Tally.callsFrom driver r k t s = (.ok (rs.foldl Tally.add t), stateAfter driver s r) := by
  induction r generalizing k t s rs with
  | zero =>
    rw [List.length_eq_zero_iff] at hlen
    subst hlen
    rfl
  | succ r ih =>
    obtain ⟨rep, rest, rfl⟩ := List.exists_cons_of_length_eq_add_one hlen
    obtain ⟨hfirst, hvalid⟩ := hpass 0 (Nat.succ_pos rest.length)
    replace hfirst : (driver s).1 = .ok rep := hfirst
    -- the remaining calls start from the state the first call left
    have hrest := ih (k + 1) (t.add rep) (driver s).2 rest (by simpa using hlen)
      (fun i hi => by
        have hnext := hpass (i + 1) (by simpa using hi)
        rw [List.getElem_cons_succ, stateAfter_succ] at hnext
        exact hnext)
    rw [callsFrom_succ_of_pass hfirst hvalid, stateAfter_succ]
    exact hrest

/-- **The first call that does not pass ends the loop.** When calls `0 … i - 1` of this loop
pass and call `i` fails with `f`, the loop answers `f` with the driver in the state after
`i + 1` calls. -/
theorem callsFrom_stop (driver : σ → Except BenchError Report × σ) (i : Nat) :
    ∀ (r k : Nat) (t : Tally) (s : σ) (f : Failure), i < r →
      (∀ i' < i, Passes (driver (stateAfter driver s i')).1) →
      (∀ t' : Tally, t'.call (k + i) (driver (stateAfter driver s i)).1 = .error f) →
      Tally.callsFrom driver r k t s = (.error f, stateAfter driver s (i + 1)) := by
  induction i with
  | zero =>
    intro r k t s f hi _ hfail
    obtain ⟨r, rfl⟩ : ∃ r', r = r' + 1 := ⟨r - 1, by omega⟩
    have hcall : t.call k (driver s).1 = .error f := hfail t
    rw [callsFrom_succ, hcall]
    rfl
  | succ i ih =>
    intro r k t s f hi hbefore hfail
    obtain ⟨r, rfl⟩ : ∃ r', r = r' + 1 := ⟨r - 1, by omega⟩
    obtain ⟨rep, hfirst, hvalid⟩ := hbefore 0 (Nat.succ_pos i)
    replace hfirst : (driver s).1 = .ok rep := hfirst
    have hrest := ih r (k + 1) (t.add rep) (driver s).2 f (by omega)
      (fun i' hi' => by simpa [← stateAfter_succ] using hbefore (i' + 1) (by omega))
      (fun t' => by simpa [← stateAfter_succ, Nat.add_assoc, Nat.add_comm 1 i] using hfail t')
    rw [callsFrom_succ_of_pass hfirst hvalid, stateAfter_succ]
    exact hrest

/-! ## The harness -/

/-- A count of zero is refused before any call. -/
theorem runIterationsFrom_zero (driver : σ → Except BenchError Report × σ) (s : σ)
    (memoryUsedBytes : Nat) :
    runIterationsFrom 0 driver s memoryUsedBytes = (.error .noIterations, s) :=
  rfl

/-- Any other count runs the loop from call 1 and sums up what it added, or answers its
failure. -/
theorem runIterationsFrom_of_ne_zero {iterations : Nat} (h : iterations ≠ 0)
    (driver : σ → Except BenchError Report × σ) (s : σ) (memoryUsedBytes : Nat) :
    runIterationsFrom iterations driver s memoryUsedBytes =
      let (t, s) := Tally.callsFrom driver iterations 1 {} s
      (t >>= fun t => t.summarize iterations memoryUsedBytes, s) := by
  unfold runIterationsFrom runIterationsM
  rw [if_neg h]
  rcases hc : Tally.callsFrom driver iterations 1 {} s with ⟨_ | t, s'⟩
  all_goals
    simp only [Tally.callsFrom, StateT.run] at hc
    simp only [bind, StateT.bind, StateT.run, pure]
    delta StateT.pure
    simp only [pure, hc]
    rfl

/-! ## The totals -/

/-- **Adding reports in call order.** The total sums their times onto the total so far, the least
and the greatest time fold `minNum` and `maxNum` over them, and the last report added is kept. -/
theorem foldl_add (rs : List Report) (t : Tally) :
    (rs.foldl Tally.add t).totalMs = (rs.map Report.totalMs).foldl (· + ·) t.totalMs ∧
      (rs.foldl Tally.add t).minMs = (rs.map Report.totalMs).foldl minNum t.minMs ∧
      (rs.foldl Tally.add t).maxMs = (rs.map Report.totalMs).foldl maxNum t.maxMs ∧
      (rs.foldl Tally.add t).last = rs.getLast?.or t.last := by
  induction rs generalizing t with
  | nil => simp
  | cons r rs ih =>
    obtain ⟨htotal, hmin, hmax, hlast⟩ := ih (t.add r)
    refine ⟨htotal, hmin, hmax, ?_⟩
    rw [List.foldl_cons, hlast, List.getLast?_cons]
    cases rs.getLast? <;> rfl

/-- Totals that hold a last report sum up to the summary of their fields. -/
theorem Tally.summarize_of_last {t : Tally} {last : Report} (h : t.last = some last)
    (iterations memoryUsedBytes : Nat) :
    t.summarize iterations memoryUsedBytes =
      .ok { iterations, totalMs := t.totalMs, averageMs := t.totalMs / Float.ofNat iterations,
            minMs := t.minMs, maxMs := t.maxMs, memoryUsedBytes, lastReport := last } := by
  rw [Tally.summarize, h]

/-- **What the harness does, for every count and every driver.** A count of zero is refused
before any call. Otherwise, when call `k` is the first that does not pass, the driver has been
called exactly `k` times and the harness fails with the failure that names call `k` and carries
its fault or its broken rule. When every call passes, the driver has been called exactly
`iterations` times and the summary holds the count, the times of the reports summed from `0.0`
in call order, their average, `minNum` folded from infinity, `maxNum` folded from `0.0`, the
memory growth handed in and the report of the last call. -/
theorem runIterationsFrom_outcome (iterations : Nat) (driver : σ → Except BenchError Report × σ)
    (s : σ) (memoryUsedBytes : Nat) :
    (iterations = 0 →
        runIterationsFrom iterations driver s memoryUsedBytes = (.error .noIterations, s)) ∧
      (∀ k, 1 ≤ k → k ≤ iterations → (∀ j, 1 ≤ j → j < k → Passes (answer driver s j)) →
        (∀ e, answer driver s k = .error e →
          runIterationsFrom iterations driver s memoryUsedBytes =
            (.error (.workload k e), stateAfter driver s k)) ∧
        (∀ r v, answer driver s k = .ok r → validate r = .error v →
          runIterationsFrom iterations driver s memoryUsedBytes =
            (.error (.invalidReport k v), stateAfter driver s k))) ∧
      (1 ≤ iterations → ∀ rs : List Report, rs.length = iterations →
        (∀ j (hj : j < rs.length), answer driver s (j + 1) = .ok rs[j] ∧
          validate rs[j] = .ok ()) →
        ∃ summary, runIterationsFrom iterations driver s memoryUsedBytes =
            (.ok summary, stateAfter driver s iterations) ∧
          summary.iterations = iterations ∧
          summary.totalMs = (rs.map Report.totalMs).foldl (· + ·) 0.0 ∧
          summary.averageMs = summary.totalMs / Float.ofNat iterations ∧
          summary.minMs = (rs.map Report.totalMs).foldl minNum infinity ∧
          summary.maxMs = (rs.map Report.totalMs).foldl maxNum 0.0 ∧
          summary.memoryUsedBytes = memoryUsedBytes ∧
          some summary.lastReport = rs.getLast?) := by
  refine ⟨fun hzero => hzero ▸ runIterationsFrom_zero driver s memoryUsedBytes, ?_, ?_⟩
  · intro k hk hkn hbefore
    -- call `k` is call `k - 1` of the loop, counted from 0
    have hstop : ∀ f : Failure, (∀ t' : Tally, t'.call k (answer driver s k) = .error f) →
        runIterationsFrom iterations driver s memoryUsedBytes = (.error f, stateAfter driver s k) := by
      intro f hfail
      have hcalls := callsFrom_stop driver (k - 1) iterations 1 {} s f (by omega)
        (fun i' hi' => by simpa [answer] using hbefore (i' + 1) (by omega) (by omega))
        (fun t' => by simpa [answer, show 1 + (k - 1) = k by omega] using hfail t')
      rw [runIterationsFrom_of_ne_zero (by omega), hcalls, show k - 1 + 1 = k by omega]
      rfl
    refine ⟨fun e he => hstop _ fun t' => by rw [he, Tally.call_fault], ?_⟩
    intro r v hr hv
    exact hstop _ fun t' => by rw [hr, Tally.call_invalid hv]
  · intro hpos rs hlen hpass
    have hcalls := callsFrom_pass driver iterations 1 {} s rs hlen
      (fun i hi => by simpa [answer] using hpass i hi)
    obtain ⟨htotal, hmin, hmax, hlast⟩ := foldl_add rs {}
    have hne : rs ≠ [] := List.ne_nil_of_length_pos (by omega)
    have hsome : rs.getLast? = some (rs.getLast hne) := List.getLast?_eq_some_getLast hne
    rw [hsome] at hlast
    refine ⟨⟨iterations, (rs.foldl Tally.add {}).totalMs,
      (rs.foldl Tally.add {}).totalMs / Float.ofNat iterations, (rs.foldl Tally.add {}).minMs,
      (rs.foldl Tally.add {}).maxMs, memoryUsedBytes, rs.getLast hne⟩, ?_, rfl, htotal, rfl, hmin,
      hmax, rfl, hsome.symm⟩
    rw [runIterationsFrom_of_ne_zero (by omega), hcalls]
    simp only [ok_bind, Tally.summarize_of_last hlast]

end CpuBench.Harness
