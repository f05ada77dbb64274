-- What a register holds after many entries: the keys that came, and for each of them the value that
-- came with it last.
import CodeAtlas.Register

namespace CodeAtlas.Register

variable {κ α : Type} [DecidableEq κ]

theorem isSome_get?_iff (r : Register κ α) (key : κ) : (r.get? key).isSome ↔ key ∈ r.keys := by
  rw [← Option.ne_none_iff_isSome, ne_eq, get?_eq_none_iff, Decidable.not_not]

theorem mem_entries_put {r : Register κ α} {key : κ} {value : α} {e : κ × α}
    (h : e ∈ (r.put key value).entries) : e ∈ r.entries ∨ e = (key, value) := by
  unfold put at h
  split at h
  · obtain ⟨⟨k, v⟩, hmem, rfl⟩ := List.mem_map.1 h
    dsimp only
    split
    · rename_i hk
      exact Or.inr (by rw [hk])
    · exact Or.inl hmem
  · simpa using h

theorem mem_entries_putAll {r : Register κ α} {entries : List (κ × α)} {e : κ × α}
    (h : e ∈ (r.putAll entries).entries) : e ∈ r.entries ∨ e ∈ entries := by
  unfold putAll at h
  induction entries generalizing r with
  | nil => exact Or.inl h
  | cons first rest ih =>
    rcases ih h with hr | hrest
    · rcases mem_entries_put hr with hr | rfl
      · exact Or.inl hr
      · exact Or.inr List.mem_cons_self
    · exact Or.inr (List.mem_cons_of_mem _ hrest)

/-- A register holds nothing but what was entered. -/
theorem mem_of_mem_ofList {entries : List (κ × α)} {e : κ × α}
    (h : e ∈ (ofList entries).entries) : e ∈ entries := by
  rcases mem_entries_putAll h with hnil | h
  · cases hnil
  · exact h

theorem mem_keys_putAll (r : Register κ α) (entries : List (κ × α)) (key : κ) :
    key ∈ (r.putAll entries).keys ↔ key ∈ r.keys ∨ key ∈ entries.map (·.1) := by
  unfold putAll
  induction entries generalizing r with
  | nil => simp
  | cons first rest ih =>
    rw [List.foldl_cons, ih, keys_put, List.map_cons, List.mem_cons]
    split
    · rename_i hmem
      constructor
      · rintro (h | h)
        · exact Or.inl h
        · exact Or.inr (Or.inr h)
      · rintro (h | rfl | h)
        · exact Or.inl h
        · exact Or.inl hmem
        · exact Or.inr h
    · simp [or_assoc]

/-- The keys of a register are those that were entered. -/
theorem mem_keys_ofList (entries : List (κ × α)) (key : κ) :
    key ∈ (ofList entries).keys ↔ key ∈ entries.map (·.1) := by
  unfold ofList
  rw [mem_keys_putAll]
  simp [empty, keys]

theorem putAll_append (r : Register κ α) (entries more : List (κ × α)) :
    r.putAll (entries ++ more) = (r.putAll entries).putAll more := by
  unfold putAll
  rw [List.foldl_append]

/-- The value that came last with a key is its value, and other keys are left alone. -/
theorem get?_putAll (r : Register κ α) (entries : List (κ × α)) (key : κ) :
    (r.putAll entries).get? key = (entries.reverse.lookup key).or (r.get? key) := by
  unfold putAll
  induction entries generalizing r with
  | nil => rfl
  | cons first rest ih =>
    rw [List.foldl_cons, ih, get?_put, List.reverse_cons, List.lookup_append, lookup_cons_eq,
      Option.or_assoc]
    by_cases h : key = first.1
    · simp [h]
    · simp [h]

theorem entries_putAll {r : Register κ α} {entries : List (κ × α)}
    (h : (r.keys ++ entries.map (·.1)).Nodup) :
    (r.putAll entries).entries = r.entries ++ entries := by
  unfold putAll
  induction entries generalizing r with
  | nil => simp
  | cons first rest ih =>
    have hnew : first.1 ∉ r.keys := by
      intro hmem
      exact (List.nodup_append.1 h).2.2 _ hmem _ (by simp) rfl
    have hput : (r.put first.1 first.2).entries = r.entries ++ [first] := by
      simp [put, hnew]
    have hkeys : (r.put first.1 first.2).keys = r.keys ++ [first.1] := by
      rw [keys_put, if_neg hnew]
    rw [List.foldl_cons, ih (by simpa [hkeys] using h), hput]
    simp

/-- Different keys stay as they were entered. -/
theorem entries_ofList {entries : List (κ × α)} (h : (entries.map (·.1)).Nodup) :
    (ofList entries).entries = entries := by
  unfold ofList
  rw [entries_putAll (by simpa [keys, empty] using h)]
  rfl

/-! ## Different keys -/

/-- Where the keys are different, a value is found under its key. -/
theorem lookup_eq_some_iff {entries : List (κ × α)} (h : (entries.map (·.1)).Nodup) (key : κ)
    (value : α) : entries.lookup key = some value ↔ (key, value) ∈ entries := by
  induction entries with
  | nil => simp
  | cons first rest ih =>
    obtain ⟨other, old⟩ := first
    obtain ⟨hnew, hnodup⟩ := List.nodup_cons.1 h
    rw [lookup_cons_eq, List.mem_cons, Prod.mk.injEq]
    by_cases heq : key = other
    · subst heq
      have hgone : (key, value) ∉ rest := fun hmem => hnew (List.mem_map.2 ⟨_, hmem, rfl⟩)
      simp [hgone, eq_comm]
    · simp [heq, ih hnodup]

/-- Where the keys are different, their order does not matter. -/
theorem get?_eq_of_perm {r r' : Register κ α} (h : r.entries.Perm r'.entries) (hr : r.keys.Nodup)
    (key : κ) : r.get? key = r'.get? key := by
  have hr' : r'.keys.Nodup := (h.map _).nodup_iff.1 hr
  ext value
  unfold get?
  rw [lookup_eq_some_iff hr, lookup_eq_some_iff hr', h.mem_iff]

/-! ## One register after another -/

theorem nodup_keys_put {r : Register κ α} (h : r.keys.Nodup) (key : κ) (value : α) :
    (r.put key value).keys.Nodup := by
  rw [keys_put]
  split
  · exact h
  · rename_i hnew
    rw [List.nodup_append]
    refine ⟨h, by simp, ?_⟩
    rintro k hk _ hkey rfl
    rw [List.mem_singleton.1 hkey] at hk
    exact hnew hk

theorem nodup_keys_putAll {r : Register κ α} (h : r.keys.Nodup) (entries : List (κ × α)) :
    (r.putAll entries).keys.Nodup := by
  unfold putAll
  induction entries generalizing r with
  | nil => exact h
  | cons first rest ih => exact ih (nodup_keys_put h first.1 first.2)

omit [DecidableEq κ] in
theorem nodup_keys_empty : (empty : Register κ α).keys.Nodup := List.nodup_nil

theorem nodup_keys_ofList (entries : List (κ × α)) : (ofList entries).keys.Nodup :=
  nodup_keys_putAll nodup_keys_empty entries

/-- The new keys come last, in the order in which they were entered first. -/
theorem keys_putAll (r : Register κ α) (entries : List (κ × α)) :
    (r.putAll entries).keys = r.keys ++ ((entries.map (·.1)).removeAll r.keys).eraseDups := by
  unfold putAll
  induction entries generalizing r with
  | nil => simp [List.removeAll]
  | cons first rest ih =>
    rw [List.foldl_cons, ih, keys_put, List.map_cons]
    by_cases hmem : first.1 ∈ r.keys
    · simp [List.removeAll, hmem]
    · have hothers : (rest.map (·.1)).removeAll (r.keys ++ [first.1]) =
          ((rest.map (·.1)).removeAll r.keys).filter fun k => !k == first.1 := by
        unfold List.removeAll
        rw [List.filter_filter]
        apply List.filter_congr
        intro k _
        by_cases hk : k = first.1 <;> simp [hk]
      rw [if_neg hmem, hothers]
      simp [List.removeAll, hmem, List.eraseDups_cons]

/-- The keys come in the order in which they were entered first. -/
theorem keys_ofList (entries : List (κ × α)) :
    (ofList entries).keys = (entries.map (·.1)).eraseDups := by
  have hnew : (entries.map (·.1)).removeAll ([] : List κ) = entries.map (·.1) :=
    List.filter_eq_self.2 (by simp)
  unfold ofList
  rw [keys_putAll]
  simp [keys, empty, hnew]

theorem map_lookup_keys {entries : List (κ × α)} (h : (entries.map (·.1)).Nodup) :
    (entries.map (·.1)).map (fun k => (k, entries.lookup k)) =
      entries.map fun e => (e.1, some e.2) := by
  rw [List.map_map]
  apply List.map_congr_left
  intro e he
  rw [Function.comp_apply, (lookup_eq_some_iff h e.1 e.2).2 he]

/-- Where the keys are different, their order and their values are all there is. -/
theorem eq_of_get? {r r' : Register κ α} (hr : r.keys.Nodup) (hkeys : r.keys = r'.keys)
    (hget : ∀ key, r.get? key = r'.get? key) : r = r' := by
  obtain ⟨entries⟩ := r
  obtain ⟨entries'⟩ := r'
  unfold keys at hr hkeys
  unfold get? at hget
  dsimp only at hr hkeys hget
  have hr' : (entries'.map (·.1)).Nodup := hkeys ▸ hr
  have hsame : entries.map (fun e => (e.1, some e.2)) = entries'.map fun e => (e.1, some e.2) := by
    rw [← map_lookup_keys hr, ← map_lookup_keys hr', hkeys]
    simp only [hget]
  rw [(List.map_inj_right (by simp)).1 hsame]

theorem lookup_reverse_entries {r : Register κ α} (h : r.keys.Nodup) (key : κ) :
    r.entries.reverse.lookup key = r.get? key := by
  have hturned : r.entries.Perm (Register.mk r.entries.reverse).entries :=
    (List.reverse_perm r.entries).symm
  exact (get?_eq_of_perm hturned h key).symm

/-- Entering a register with one more value is entering the register and then the value. -/
theorem putAll_entries_put {r other : Register κ α} (hr : r.keys.Nodup) (hother : other.keys.Nodup)
    (key : κ) (value : α) :
    r.putAll (other.put key value).entries = (r.putAll other.entries).put key value := by
  by_cases hmem : key ∈ other.keys
  · -- the key keeps its place, so that only its value can be another one
    have hkeys : (other.put key value).keys = other.keys := by rw [keys_put, if_pos hmem]
    have hput := nodup_keys_put hother key value
    apply eq_of_get? (nodup_keys_putAll hr _)
    · have hknown : key ∈ (r.putAll other.entries).keys :=
        (mem_keys_putAll r other.entries key).2 (Or.inr hmem)
      rw [keys_put, if_pos hknown, keys_putAll, keys_putAll]
      unfold keys at hkeys
      rw [hkeys]
    · intro k
      rw [get?_putAll, lookup_reverse_entries hput, get?_put, get?_put, get?_putAll,
        lookup_reverse_entries hother]
      split <;> rfl
  · have hentries : (other.put key value).entries = other.entries ++ [(key, value)] := by
      simp [put, hmem]
    rw [hentries, putAll_append]
    rfl

/-- Entering a register is entering all that was ever entered in it. -/
theorem putAll_entries_putAll {r other : Register κ α} (hr : r.keys.Nodup)
    (hother : other.keys.Nodup) (entries : List (κ × α)) :
    r.putAll (other.putAll entries).entries = (r.putAll other.entries).putAll entries := by
  induction entries generalizing other with
  | nil => rfl
  | cons first rest ih =>
    have hfirst := putAll_entries_put hr hother first.1 first.2
    have hrest := ih (nodup_keys_put hother first.1 first.2)
    rw [hfirst] at hrest
    exact hrest

theorem ofList_append (entries more : List (κ × α)) :
    ofList (entries ++ more) = (ofList entries).putAll (ofList more).entries := by
  have hmore := putAll_entries_putAll (nodup_keys_ofList entries) nodup_keys_empty more
  unfold ofList at hmore ⊢
  rw [putAll_append, hmore]
  rfl

end CodeAtlas.Register
