import Mathlib.Data.List.Nodup
import CpuBench.Report.Results
import CpuBench.Proofs.Outcome

/-!
# A result table keeps the first result of every name

Calls on a table are made one after another, in place (`ResultMap.applyAll`); an insert of a name
the table already holds is refused and changes nothing. So after any sequence of calls the table
holds the inserts of the sequence, each name with its first insert only, in the order in which
the names first appeared. `firstPerKey` states that list on its own terms, without a table:

* `firstPerKey_append_single` — one more insert adds its entry last, unless its name appeared;
* `apply_follows` — one call answers from the accepted inserts and extends them by its own;
* `applyAll_keeps_first_inserts` — over every sequence of calls from the empty table: every
  reply, the unchanged table after a refusal, and every view of the table (names, results,
  lookups, size, combined result) follow from the first inserts.
-/

namespace CpuBench.ResultMap

/-- Tables with the same entries are equal: the no-repeat proof carries no data. -/
@[ext] theorem ext {m m' : ResultMap} (h : m.entries = m'.entries) : m = m' := by
  cases m
  cases m'
  cases h
  rfl

/-! ## The table's own operations -/

/-- An insert of a name the table holds is refused with the fault that names it. -/
theorem insert_of_mem {m : ResultMap} {key : String} {value : Float} (h : key ∈ m.keys) :
    m.insert key value = .error (.duplicateKey key) := by
  unfold insert
  exact dif_pos h

/-- An insert of a new name is accepted and goes last. -/
theorem insert_of_not_mem {m : ResultMap} {key : String} {value : Float} (h : key ∉ m.keys) :
    ∃ m', m.insert key value = .ok m' ∧ m'.entries = m.entries ++ [(key, value)] := by
  unfold insert
  rw [dif_neg h]
  exact ⟨_, rfl, rfl⟩

/-- A lookup passes over an entry of another name. -/
@[simp] theorem lookup_cons_of_ne {l : List (String × Float)} {key k : String} (v : Float)
    (h : key ≠ k) : ((k, v) :: l).lookup key = l.lookup key := by
  rw [List.lookup_cons, beq_eq_false_iff_ne.mpr h]

/-- Looking up a name by the first entry that carries it is `List.lookup`. -/
theorem find?_map_snd_eq_lookup (entries : List (String × Float)) (key : String) :
    (entries.find? (·.1 == key)).map Prod.snd = entries.lookup key := by
  induction entries with
  | nil => rfl
  | cons e rest ih =>
    obtain ⟨k, v⟩ := e
    by_cases h : k = key
    · subst h
      simp
    · rw [lookup_cons_of_ne v (Ne.symm h), ← ih]
      simp [h]

/-- A lookup in a table is a lookup in its list of entries. -/
theorem get?_eq_lookup (m : ResultMap) (key : String) : m.get? key = m.entries.lookup key :=
  find?_map_snd_eq_lookup m.entries key

/-! ## The first entry of every name -/

/-- The first entry of each name, in the order in which the names first appear: a later entry
of a name that appeared before is dropped. -/
def firstPerKey : List (String × Float) → List (String × Float)
  | [] => []
  | e :: rest => e :: (firstPerKey rest).filter (·.1 != e.1)

/-- The names of `firstPerKey`: the first name, then the others' names without it. -/
theorem keys_firstPerKey_cons (e : String × Float) (rest : List (String × Float)) :
    (firstPerKey (e :: rest)).map Prod.fst =
      e.1 :: ((firstPerKey rest).map Prod.fst).filter (· != e.1) := by
  rw [firstPerKey, List.map_cons, List.filter_map]
  rfl

/-- `firstPerKey` drops entries, never names. -/
theorem mem_keys_firstPerKey {l : List (String × Float)} {key : String} :
    key ∈ (firstPerKey l).map Prod.fst ↔ key ∈ l.map Prod.fst := by
  induction l with
  | nil => rfl
  | cons e rest ih =>
    rw [keys_firstPerKey_cons, List.map_cons, List.mem_cons, List.mem_cons, List.mem_filter, ih]
    by_cases h : key = e.1 <;> simp [h]

/-- No name occurs twice in `firstPerKey`. -/
theorem keys_firstPerKey_nodup (l : List (String × Float)) :
    ((firstPerKey l).map Prod.fst).Nodup := by
  induction l with
  | nil => exact List.nodup_nil
  | cons e rest ih =>
    rw [keys_firstPerKey_cons, List.nodup_cons]
    refine ⟨?_, ih.filter _⟩
    intro hmem
    simp at hmem

/-- Dropping the entries of another name does not change a lookup. -/
theorem lookup_filter_ne {l : List (String × Float)} {key other : String} (h : key ≠ other) :
    (l.filter (·.1 != other)).lookup key = l.lookup key := by
  induction l with
  | nil => rfl
  | cons e rest ih =>
    obtain ⟨k, v⟩ := e
    by_cases hk : k = other
    · -- the dropped entry's name is not the one looked up
      subst hk
      simp [lookup_cons_of_ne v h, ih]
    · by_cases hkey : key = k
      · subst hkey
        simp [hk]
      · simp [lookup_cons_of_ne v hkey, hk, ih]

/-- A lookup finds the first entry of a name, which `firstPerKey` keeps. -/
theorem lookup_firstPerKey (l : List (String × Float)) (key : String) :
    (firstPerKey l).lookup key = l.lookup key := by
  induction l with
  | nil => rfl
  | cons e rest ih =>
    obtain ⟨k, v⟩ := e
    by_cases h : key = k
    · subst h
      simp [firstPerKey]
    · rw [firstPerKey, lookup_cons_of_ne v h, lookup_filter_ne h, lookup_cons_of_ne v h, ih]

/-- **One more entry.** It goes last when its name is new, and is dropped otherwise. -/
theorem firstPerKey_append_single (l : List (String × Float)) (key : String) (value : Float) :
    firstPerKey (l ++ [(key, value)]) =
      if key ∈ l.map Prod.fst then firstPerKey l else firstPerKey l ++ [(key, value)] := by
  induction l with
  | nil => simp [firstPerKey]
  | cons e rest ih =>
    rw [List.cons_append, firstPerKey, ih]
    by_cases hold : key ∈ rest.map Prod.fst
    · have hmem : key ∈ (e :: rest).map Prod.fst := List.mem_cons_of_mem _ hold
      rw [if_pos hold, if_pos hmem, firstPerKey]
    · by_cases he : key = e.1
      · have hmem : key ∈ (e :: rest).map Prod.fst := by simp [he]
        rw [if_neg hold, if_pos hmem, firstPerKey, List.filter_append]
        simp [he]
      · have hmem : key ∉ (e :: rest).map Prod.fst := by simp [he, hold]
        rw [if_neg hold, if_neg hmem, firstPerKey, List.filter_append]
        simp [he]

/-! ## Calls in sequence -/

/-- The inserts among the calls, in order. -/
def insertions : List Op → List (String × Float)
  | [] => []
  | .insert key value :: ops => (key, value) :: insertions ops
  | .get _ :: ops => insertions ops

theorem insertions_append (ops ops' : List Op) :
    insertions (ops ++ ops') = insertions ops ++ insertions ops' := by
  induction ops with
  | nil => rfl
  | cons op ops ih => cases op <;> simp [insertions, ih]

/-- What a call answers when `accepted` are the inserts accepted before it: an insert is refused
exactly when its name was accepted before, and a lookup finds the result accepted for its name. -/
def expectedReply (accepted : List (String × Float)) : Op → Reply
  | .insert key _ =>
    .inserted (if key ∈ accepted.map Prod.fst then .error (.duplicateKey key) else .ok ())
  | .get key => .found (accepted.lookup key)

/-- **One call.** On a table that holds the first inserts of `h`, a call answers as
`expectedReply` says and leaves the first inserts of `h` followed by its own. -/
theorem apply_follows {m : ResultMap} {h : List (String × Float)}
    (hm : m.entries = firstPerKey h) (op : Op) :
    (m.apply op).1 = expectedReply (firstPerKey h) op ∧
      (m.apply op).2.entries = firstPerKey (h ++ insertions [op]) := by
  cases op with
  | insert key value =>
    have hkeys : m.keys = (firstPerKey h).map Prod.fst := by rw [keys, hm]
    have hins : insertions [.insert key value] = [(key, value)] := rfl
    rw [hins, firstPerKey_append_single]
    by_cases hold : key ∈ h.map Prod.fst
    · -- refused: the name was accepted before, and the table stays as it is
      have hin : key ∈ (firstPerKey h).map Prod.fst := mem_keys_firstPerKey.mpr hold
      have hrefused : m.insert key value = .error (.duplicateKey key) := by
        rw [← hkeys] at hin
        exact insert_of_mem hin
      simp only [apply, hrefused, expectedReply, if_pos hin, if_pos hold, hm, and_self]
    · have hout : key ∉ (firstPerKey h).map Prod.fst := mt mem_keys_firstPerKey.mp hold
      have hout' : key ∉ m.keys := by
        rw [hkeys]
        exact hout
      obtain ⟨m', haccepted, hentries⟩ := @insert_of_not_mem m key value hout'
      simp only [apply, haccepted, expectedReply, if_neg hout, if_neg hold, hentries, hm,
        and_self]
  | get key =>
    simp only [apply, expectedReply, get?_eq_lookup, hm, insertions, List.append_nil, and_self]

/-- Calls in sequence: those of the first part, then the others on the table they leave. -/
theorem applyAll_append (m : ResultMap) (ops ops' : List Op) :
    m.applyAll (ops ++ ops') =
      ((m.applyAll ops).1 ++ ((m.applyAll ops).2.applyAll ops').1,
        ((m.applyAll ops).2.applyAll ops').2) := by
  induction ops generalizing m with
  | nil => rfl
  | cons op ops ih => simp [applyAll, ih]

/-- **Run invariant.** From a table that holds the first inserts of `h`, calls in sequence leave
the first inserts of `h` followed by their own, and call `i` answers from the inserts made
before it. -/
theorem applyAll_follows {m : ResultMap} {h : List (String × Float)}
    (hm : m.entries = firstPerKey h) (ops : List Op) :
    (m.applyAll ops).2.entries = firstPerKey (h ++ insertions ops) ∧
      ∀ i (hi : i < ops.length), (m.applyAll ops).1[i]? =
        some (expectedReply (firstPerKey (h ++ insertions (ops.take i))) ops[i]) := by
  induction ops generalizing m h with
  | nil => simp [applyAll, insertions, hm]
  | cons op ops ih =>
    obtain ⟨hreply, hnext⟩ := apply_follows hm op
    obtain ⟨hentries, hreplies⟩ := ih hnext
    have hsplit : ∀ rest : List Op, insertions (op :: rest) = insertions [op] ++ insertions rest :=
      fun rest => insertions_append [op] rest
    refine ⟨?_, ?_⟩
    · simp only [applyAll]
      rw [hentries, List.append_assoc, ← hsplit]
    · intro i hi
      cases i with
      | zero => simp [applyAll, hreply, insertions]
      | succ i =>
        simp only [applyAll, List.getElem?_cons_succ, List.take_succ_cons, List.getElem_cons_succ]
        rw [hreplies i (by simpa using hi), List.append_assoc, ← hsplit]

/-- **The table keeps the first insert of every name.** For every sequence of calls made in
place on the empty table: call `i` answers from the inserts accepted before it (an insert is
refused exactly when its name was accepted before, with the fault naming it; a lookup finds the
result accepted for its name); a refused insert leaves the table exactly as it was; and the table
holds the first insert of each name, in the order the names first appeared, without repeats, so
its names, results, lookups, size, emptiness and combined result are those of the first
inserts. -/
theorem applyAll_keeps_first_inserts (ops : List Op) :
    let m := (empty.applyAll ops).2
    let firsts := firstPerKey (insertions ops)
    (∀ i (hi : i < ops.length), (empty.applyAll ops).1[i]? =
        some (expectedReply (firstPerKey (insertions (ops.take i))) ops[i])) ∧
      (∀ key value, key ∈ (insertions ops).map Prod.fst →
        (empty.applyAll (ops ++ [.insert key value])).2 = m) ∧
      m.keys = firsts.map Prod.fst ∧ m.keys.Nodup ∧ m.values = firsts.map Prod.snd ∧
      (∀ key, m.get? key = (insertions ops).lookup key) ∧
      m.size = firsts.length ∧ (m.isEmpty = true ↔ m.size = 0) ∧
      m.truthySum = ((firsts.map Prod.snd).filter isTruthy).foldl (· + ·) 0.0 := by
  intro m firsts
  have hempty : empty.entries = firstPerKey [] := rfl
  obtain ⟨hentries, hreplies⟩ := applyAll_follows hempty ops
  simp only [List.nil_append] at hentries hreplies
  have hm : m.entries = firsts := hentries
  refine ⟨hreplies, ?_, ?_, ?_, ?_, ?_, ?_, ?_, ?_⟩
  · intro key value hold
    have hin : key ∈ m.keys := by
      rw [keys, hm]
      exact mem_keys_firstPerKey.mpr hold
    rw [applyAll_append]
    simp [applyAll, apply, insert_of_mem hin, m]
  · rw [keys, hm]
  · rw [keys, hm]
    exact keys_firstPerKey_nodup _
  · rw [values, hm]
  · intro key
    rw [get?_eq_lookup, hm, lookup_firstPerKey]
  · rw [size, hm]
  · exact List.isEmpty_iff_length_eq_zero
  · rw [truthySum, CpuBench.truthySum, values, hm]

end CpuBench.ResultMap
