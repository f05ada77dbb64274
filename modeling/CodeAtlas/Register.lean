-- Registers: one value for each key, in the order in which the keys first came.

namespace CodeAtlas

/-- A list of keys with their values. -/
structure Register (κ α : Type) where
  entries : List (κ × α)

namespace Register

variable {κ α : Type} [DecidableEq κ]

def empty : Register κ α := ⟨[]⟩

def get? (r : Register κ α) (key : κ) : Option α := r.entries.lookup key

def keys (r : Register κ α) : List κ := r.entries.map (·.1)

/-- Enters a value. A known key keeps its place and takes the new value; a new one goes last. -/
def put (r : Register κ α) (key : κ) (value : α) : Register κ α :=
  if r.keys.contains key then
    ⟨r.entries.map fun (k, v) => if k = key then (k, value) else (k, v)⟩
  else ⟨r.entries ++ [(key, value)]⟩

/-- Enters several values, one after the other. -/
def putAll (r : Register κ α) (entries : List (κ × α)) : Register κ α :=
  entries.foldl (fun r (key, value) => r.put key value) r

/-- The register of a list of entries. -/
def ofList (entries : List (κ × α)) : Register κ α := empty.putAll entries

/-! ## What a register holds -/

/-- A key comes last if it is new, and keeps its place otherwise. -/
theorem keys_put (r : Register κ α) (key : κ) (value : α) :
    (r.put key value).keys = if key ∈ r.keys then r.keys else r.keys ++ [key] := by
  unfold put
  simp only [List.contains_iff_mem]
  split
  · simp only [keys, List.map_map]
    apply List.map_congr_left
    rintro ⟨k, v⟩ -
    by_cases h : k = key <;> simp [h]
  · simp [keys]

theorem lookup_cons_eq (k key : κ) (value : α) (entries : List (κ × α)) :
    ((k, value) :: entries).lookup key = if key = k then some value else entries.lookup key := by
  by_cases h : key = k
  · simp [h]
  · rw [List.lookup_cons, beq_eq_false_iff_ne.2 h, if_neg h]

theorem lookup_replace (entries : List (κ × α)) (key other : κ) (value : α) :
    (entries.map fun (k, v) => if k = key then (k, value) else (k, v)).lookup other =
      if other = key then (entries.lookup other).map fun _ => value else entries.lookup other := by
  induction entries with
  | nil => simp
  | cons e entries ih =>
    obtain ⟨k, v⟩ := e
    by_cases hk : k = key
    · by_cases ho : other = key <;> simp_all [lookup_cons_eq]
    · have hk' : key ≠ k := fun h => hk h.symm
      by_cases ho : other = k <;> simp_all [lookup_cons_eq]

theorem lookup_eq_none_iff (entries : List (κ × α)) (key : κ) :
    entries.lookup key = none ↔ key ∉ entries.map (·.1) := by
  induction entries with
  | nil => simp
  | cons e entries ih =>
    obtain ⟨k, v⟩ := e
    rw [lookup_cons_eq, List.map_cons, List.mem_cons, not_or, ← ih]
    by_cases h : key = k <;> simp [h]

/-- Only the keys have a value. -/
theorem get?_eq_none_iff (r : Register κ α) (key : κ) :
    r.get? key = none ↔ key ∉ r.keys :=
  lookup_eq_none_iff r.entries key

/-- The value entered last for a key is its value, and no other key is touched. -/
theorem get?_put (r : Register κ α) (key other : κ) (value : α) :
    (r.put key value).get? other = if other = key then some value else r.get? other := by
  have hnone := r.get?_eq_none_iff key
  unfold put
  simp only [List.contains_iff_mem]
  unfold get? at *
  split
  · rename_i hmem
    rw [lookup_replace]
    split
    · rename_i heq
      subst heq
      cases h : r.entries.lookup other with
      | none => exact absurd hmem (hnone.1 h)
      | some v => rfl
    · rfl
  · rename_i hmem
    rw [List.lookup_append, lookup_cons_eq]
    by_cases h : other = key
    · subst h
      simp [hnone.2 hmem]
    · simp [h]

end Register

end CodeAtlas
