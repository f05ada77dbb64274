-- Texts up to their first slash, and paths as components and back: components that hold no slash
-- and say something come back when they are written as a path.
import CodeAtlas.Path
import Mathlib.Data.List.Basic

/-! ## Cutting at the first slash

There is one way to do it, and it is the one that takes characters as long as they are no slash. -/

namespace CodeAtlas.Segments

/-- The text is a part without slashes, and a rest that is empty or starts with a slash. -/
structure Cut (cs part rest : List Char) : Prop where
  append : cs = part ++ rest
  noSlash : '/' ∉ part
  opens : rest = [] ∨ ∃ more, rest = '/' :: more

theorem cut_takeWhile (cs : List Char) :
    Cut cs (cs.takeWhile (· ≠ '/')) (cs.dropWhile (· ≠ '/')) where
  append := List.takeWhile_append_dropWhile.symm
  noSlash := by
    intro hmem
    have hall := List.all_takeWhile (p := fun c : Char => decide (c ≠ '/')) (l := cs)
    simpa using List.all_eq_true.1 hall '/' hmem
  opens := by
    cases hrest : cs.dropWhile (· ≠ '/') with
    | nil => exact Or.inl rfl
    | cons c more =>
      have hhead := List.head?_dropWhile_not (fun c : Char => decide (c ≠ '/')) cs
      rw [hrest, List.head?_cons] at hhead
      have hslash : c = '/' := by simpa using hhead
      exact Or.inr ⟨more, by rw [hslash]⟩

theorem Cut.ne_slash {cs part rest : List Char} (h : Cut cs part rest) :
    ∀ c ∈ part, decide (c ≠ '/') = true := by
  intro c hc
  rw [decide_eq_true_eq]
  rintro rfl
  exact h.noSlash hc

theorem Cut.takeWhile_eq {cs part rest : List Char} (h : Cut cs part rest) :
    cs.takeWhile (· ≠ '/') = part := by
  rw [h.append, List.takeWhile_append_of_pos h.ne_slash]
  rcases h.opens with rfl | ⟨more, rfl⟩ <;> simp

theorem Cut.dropWhile_eq {cs part rest : List Char} (h : Cut cs part rest) :
    cs.dropWhile (· ≠ '/') = rest := by
  rw [h.append, List.dropWhile_append_of_pos h.ne_slash]
  rcases h.opens with rfl | ⟨more, rfl⟩ <;> simp

theorem Cut.unique {cs part rest part' rest' : List Char} (h : Cut cs part rest)
    (h' : Cut cs part' rest') : part = part' ∧ rest = rest' :=
  ⟨h.takeWhile_eq.symm.trans h'.takeWhile_eq, h.dropWhile_eq.symm.trans h'.dropWhile_eq⟩

end CodeAtlas.Segments

/-! ## Components -/

namespace CodeAtlas.Path

/-- A text that can be a component of a path: it says something, and holds no slash. -/
def IsComponent (c : String) : Prop := c ≠ "" ∧ c ≠ "." ∧ '/' ∉ c.toList

instance (c : String) : Decidable (IsComponent c) := inferInstanceAs (Decidable (_ ∧ _ ∧ _))

/-- All of them can be components of a path. -/
def AreComponents (cs : List String) : Prop := ∀ c ∈ cs, IsComponent c

instance (cs : List String) : Decidable (AreComponents cs) :=
  inferInstanceAs (Decidable (∀ c ∈ cs, IsComponent c))

theorem AreComponents.append {cs ds : List String} (hcs : AreComponents cs)
    (hds : AreComponents ds) : AreComponents (cs ++ ds) := by
  intro c hc
  rcases List.mem_append.1 hc with hc | hc
  · exact hcs c hc
  · exact hds c hc

theorem areComponents_components (path : String) : AreComponents (components path) := by
  intro c h
  obtain ⟨s, hs, rfl⟩ := List.mem_map.1 h
  obtain ⟨hsplit, hkept⟩ := List.mem_filter.1 hs
  simp only [Bool.and_eq_true, decide_eq_true_eq] at hkept
  refine ⟨?_, ?_, ?_⟩
  · intro hempty
    apply hkept.1
    rw [← String.toList_ofList (l := s), hempty]
    rfl
  · intro hdot
    apply hkept.2
    rw [← String.toList_ofList (l := s), hdot]
    rfl
  · rw [String.toList_ofList]
    exact Segments.notMem_of_mem_split hsplit

/-- A segment is kept if it is the text of a component. -/
theorem isKept_of_isComponent {c : String} (h : IsComponent c) :
    (c.toList ≠ [] && c.toList ≠ ['.']) = true := by
  obtain ⟨hempty, hdot, -⟩ := h
  simp only [Bool.and_eq_true, decide_eq_true_eq]
  refine ⟨?_, ?_⟩
  · intro hc
    apply hempty
    rw [← String.ofList_toList (s := c), hc]
  · intro hc
    apply hdot
    rw [← String.ofList_toList (s := c), hc]

/-- Components come back when they are written as a path. -/
theorem components_render {cs : List String} (h : AreComponents cs) :
    components (render cs) = cs := by
  unfold components render
  cases cs with
  | nil => decide
  | cons c cs =>
    have hslash : ∀ s ∈ (c :: cs).map String.toList, '/' ∉ s := by
      intro s hs
      obtain ⟨d, hd, rfl⟩ := List.mem_map.1 hs
      exact (h d hd).2.2
    have hkept : ∀ s ∈ (c :: cs).map String.toList, (s ≠ [] && s ≠ ['.']) = true := by
      intro s hs
      obtain ⟨d, hd, rfl⟩ := List.mem_map.1 hs
      exact isKept_of_isComponent (h d hd)
    rw [List.isEmpty_cons, if_neg Bool.false_ne_true, String.toList_ofList,
      Segments.split_join (by simp) hslash, List.filter_eq_self.2 hkept, List.map_map]
    simp [Function.comp_def]

/-- The name of a path is its last component. -/
theorem name_render {cs : List String} (h : AreComponents cs) :
    name (render cs) = cs.getLastD "" := by
  unfold name
  rw [components_render h]

theorem render_singleton (c : String) : render [c] = c := by
  simp [render, Segments.join]

/-- A component is its own name. -/
theorem name_of_isComponent {c : String} (h : IsComponent c) : name c = c := by
  have hone : AreComponents [c] := fun d hd => by rwa [List.mem_singleton.1 hd]
  simpa [render_singleton] using name_render hone

theorem utf8ByteSize_render_cons (c d : String) (cs : List String) :
    (render (c :: d :: cs)).utf8ByteSize =
      c.utf8ByteSize + 1 + (render (d :: cs)).utf8ByteSize := by
  have hslash : render (c :: d :: cs) = c ++ "/" ++ render (d :: cs) := by
    simp [render, Segments.join, String.append_assoc]
  rw [hslash, String.utf8ByteSize_append, String.utf8ByteSize_append]
  rfl

/-- Paths that are written alike have the same components. -/
theorem render_injective {cs ds : List String} (hcs : AreComponents cs) (hds : AreComponents ds)
    (h : render cs = render ds) : cs = ds := by
  rw [← components_render hcs, h, components_render hds]

end CodeAtlas.Path
