import CpuBench.Fault

/-!
# Result tables

A result table maps names to float results in the order they were first recorded, and a name is
recorded at most once: `ResultMap.insert` refuses a name that is already there and leaves the
table as it was.

A result *counts* when it is neither zero (of either sign) nor NaN. The combined result of a
table is the sum, from `+0.0` and in table order, of the results that count; so a table without
such results combines to `+0.0`.
-/

namespace CpuBench

/-- Whether a result counts towards a combined result: it is neither zero nor NaN. -/
def isTruthy (x : Float) : Bool :=
  x != 0.0 && !x.isNaN

/-- The sum of the results that count, added up from `+0.0` in list order. -/
def truthySum (xs : List Float) : Float :=
  (xs.filter isTruthy).foldl (· + ·) 0.0

/-- Named results in the order they were recorded; no name occurs twice. -/
structure ResultMap where
  entries : List (String × Float)
  nodup : (entries.map Prod.fst).Nodup

namespace ResultMap

/-- The table without results. -/
def empty : ResultMap :=
  ⟨[], List.nodup_nil⟩

instance : Inhabited ResultMap := ⟨empty⟩

/-- The names, in recording order. -/
def keys (m : ResultMap) : List String :=
  m.entries.map Prod.fst

/-- The results, in recording order. -/
def values (m : ResultMap) : List Float :=
  m.entries.map Prod.snd

/-- The number of results. -/
def size (m : ResultMap) : Nat :=
  m.entries.length

/-- Whether nothing has been recorded. -/
def isEmpty (m : ResultMap) : Bool :=
  m.entries.isEmpty

/-- The result recorded under `key`. -/
def get? (m : ResultMap) (key : String) : Option Float :=
  (m.entries.find? (·.1 == key)).map Prod.snd

/-- The combined result of the table. -/
def truthySum (m : ResultMap) : Float :=
  CpuBench.truthySum m.values

/-- Appending a name that is not yet in a list without repeats keeps it without repeats. -/
theorem nodup_append_single {l : List String} {k : String} (hl : l.Nodup) (hk : k ∉ l) :
    (l ++ [k]).Nodup := by
  rw [List.nodup_append]
  exact ⟨hl, List.nodup_cons.mpr ⟨by simp, List.nodup_nil⟩, fun a ha b hb => by
    simp only [List.mem_singleton] at hb
    subst hb
    intro h
    subst h
    exact hk ha⟩

/-- Records `value` under `key`, unless `key` is already recorded. -/
def insert (m : ResultMap) (key : String) (value : Float) : Except BenchError ResultMap :=
  if h : key ∈ m.keys then .error (.duplicateKey key)
  else .ok ⟨m.entries ++ [(key, value)], by
    rw [List.map_append]
    exact nodup_append_single m.nodup h⟩

/-- Replacing the value of an entry keeps the names in place. -/
theorem map_fst_replace (entries : List (String × Float)) (key : String) (value : Float) :
    (entries.map fun e => if e.1 == key then (key, value) else e).map Prod.fst =
      entries.map Prod.fst := by
  induction entries with
  | nil => rfl
  | cons e rest ih =>
    simp only [List.map_cons, ih, List.cons.injEq, and_true]
    split
    · exact (beq_iff_eq.mp (by assumption)).symm
    · rfl

/-- Records `value` under `key`: a name already recorded keeps its place and takes the new
value, a new name goes last. This is how a table read from data treats a repeated name. -/
def upsert (m : ResultMap) (key : String) (value : Float) : ResultMap :=
  if h : key ∈ m.keys then
    ⟨m.entries.map (fun e => if e.1 == key then (key, value) else e), by
      rw [map_fst_replace]
      exact m.nodup⟩
  else ⟨m.entries ++ [(key, value)], by
    rw [List.map_append]
    exact nodup_append_single m.nodup h⟩

/-- Records the entries in order; the first repeated name stops it. -/
def ofList (entries : List (String × Float)) : Except BenchError ResultMap :=
  entries.foldlM (fun m (k, v) => m.insert k v) empty

/-- A call on a table that is changed in place. -/
inductive Op where
  /-- Record `value` under `key`. -/
  | insert (key : String) (value : Float)
  /-- Look up the result under `key`. -/
  | get (key : String)

/-- What a call on a table answers. -/
inductive Reply where
  /-- An insert was accepted, or refused with its fault. -/
  | inserted (outcome : Except BenchError Unit)
  /-- The result a lookup found. -/
  | found (value : Option Float)

/-- One call on the table in place: a refused insert leaves the table as it was. -/
def apply (m : ResultMap) : Op → Reply × ResultMap
  | .insert key value =>
    match m.insert key value with
    | .ok m' => (.inserted (.ok ()), m')
    | .error e => (.inserted (.error e), m)
  | .get key => (.found (m.get? key), m)

/-- The replies to calls made one after another on the table, and the table they leave. -/
def applyAll (m : ResultMap) : List Op → List Reply × ResultMap
  | [] => ([], m)
  | op :: ops =>
    let (reply, m') := m.apply op
    let (replies, m'') := m'.applyAll ops
    (reply :: replies, m'')

/-- The names whose results do not count, in table order. -/
def skippedKeys (m : ResultMap) : List String :=
  (m.entries.filter fun e => !isTruthy e.2).map Prod.fst

end ResultMap

end CpuBench
