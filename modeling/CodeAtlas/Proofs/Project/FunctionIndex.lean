-- The index of the functions that files declare at their top level. Its names come in the order in
-- which they are declared first, but each leads to the file that declares it last. So the index of
-- more files is the index of the first ones with that of the others entered after it.
import CodeAtlas.Proofs.Project.Linking

namespace CodeAtlas

/-- The functions that the statements of some files declare: a name for each declaration, file by
file and in the order of the text. -/
def declaredNames (files : List Node) : List String :=
  (files.flatMap Node.sites).filterMap Site.declared?

/-- The file is the last one that declares the function. -/
def LastDeclarer (files : List Node) (name : String) (f : Node) : Prop :=
  ∃ before after, files = before ++ f :: after ∧ f.Declares name ∧ ∀ g ∈ after, ¬ g.Declares name

/-! ## Names -/

theorem Node.map_fst_declarations (f : Node) :
    f.declarations.map (·.1) = f.sites.filterMap Site.declared? := by
  unfold declarations sites
  cases f.source with
  | none => rfl
  | some s =>
    dsimp only
    rw [List.map_map, List.filterMap_map, Source.topLevelFunctions, List.filterMap_filter]
    exact List.map_id _

theorem map_fst_declarations (files : List Node) :
    (files.flatMap Node.declarations).map (·.1) = declaredNames files := by
  unfold declaredNames
  rw [List.map_flatMap, List.filterMap_flatMap]
  exact List.flatMap_congr fun f _ => f.map_fst_declarations

theorem keys_functionIndex (files : List Node) :
    (functionIndex files).keys = (declaredNames files).eraseDups := by
  unfold functionIndex
  rw [Register.keys_ofList, map_fst_declarations]

theorem nodup_keys_functionIndex (files : List Node) : (functionIndex files).keys.Nodup :=
  Register.nodup_keys_ofList _

theorem mem_keys_functionIndex_iff (files : List Node) (name : String) :
    name ∈ (functionIndex files).keys ↔ ∃ f ∈ files, f.Declares name := by
  rw [← Register.isSome_get?_iff, isSome_functionIndex_iff]

/-! ## Declarers -/

theorem lookup_map_declarer (names : List String) (d : Declarer) (name : String) :
    (names.map fun n => (n, d)).lookup name = if name ∈ names then some d else none := by
  induction names with
  | nil => rfl
  | cons n names ih =>
    rw [List.map_cons, Register.lookup_cons_eq, ih]
    by_cases hname : name = n <;> simp [hname]

/-- A file takes over the names that it declares, and no others. -/
theorem get?_putAll_declarations (r : Register String Declarer) (f : Node) (name : String) :
    (f.Declares name → (r.putAll f.declarations).get? name = some ⟨f.path, f.id⟩) ∧
      (¬ f.Declares name → (r.putAll f.declarations).get? name = r.get? name) := by
  rw [Register.get?_putAll]
  unfold Node.Declares Node.declarations
  cases f.source with
  | none => simp
  | some s =>
    dsimp only
    rw [← List.map_reverse, lookup_map_declarer]
    constructor
    · rintro ⟨_, heq, hname⟩
      cases heq
      simp [hname]
    · intro hother
      have hname : name ∉ s.topLevelFunctions := fun h => hother ⟨s, rfl, h⟩
      simp [hname]

theorem not_lastDeclarer_nil {name : String} {f : Node} : ¬ LastDeclarer [] name f := by
  rintro ⟨before, after, heq, -⟩
  simp at heq

/-- Of the first file and the others, the others come last. -/
theorem lastDeclarer_cons_iff {files : List Node} {name : String} {f g : Node} :
    LastDeclarer (g :: files) name f ↔
      LastDeclarer files name f ∨ f = g ∧ g.Declares name ∧ ∀ h ∈ files, ¬ h.Declares name := by
  constructor
  · rintro ⟨before, after, heq, hdeclares, hafter⟩
    cases before with
    | nil =>
      obtain ⟨rfl, rfl⟩ := List.cons.inj heq
      exact Or.inr ⟨rfl, hdeclares, hafter⟩
    | cons first before =>
      obtain ⟨rfl, rfl⟩ := List.cons.inj heq
      exact Or.inl ⟨before, after, rfl, hdeclares, hafter⟩
  · rintro (⟨before, after, rfl, hdeclares, hafter⟩ | ⟨rfl, hdeclares, hafter⟩)
    · exact ⟨g :: before, after, rfl, hdeclares, hafter⟩
    · exact ⟨[], files, rfl, hdeclares, hafter⟩

/-- A name leads to the last file that declares it, and else to where it led before. -/
theorem get?_putAll_flatMap_declarations (r : Register String Declarer) (files : List Node)
    (name : String) (d : Declarer) :
    (r.putAll (files.flatMap Node.declarations)).get? name = some d ↔
      (∃ f, LastDeclarer files name f ∧ d = ⟨f.path, f.id⟩) ∨
        (∀ f ∈ files, ¬ f.Declares name) ∧ r.get? name = some d := by
  -- the first file is entered into the register that the others then find
  induction files generalizing r with
  | nil => simp [Register.putAll, not_lastDeclarer_nil]
  | cons g files ih =>
    obtain ⟨htakes, hleaves⟩ := get?_putAll_declarations r g name
    rw [List.flatMap_cons, Register.putAll_append, ih]
    simp only [lastDeclarer_cons_iff, List.forall_mem_cons]
    by_cases hg : g.Declares name
    · rw [htakes hg]
      constructor
      · rintro (⟨f, hf, rfl⟩ | ⟨hothers, heq⟩)
        · exact Or.inl ⟨f, Or.inl hf, rfl⟩
        · cases heq
          exact Or.inl ⟨g, Or.inr ⟨rfl, hg, hothers⟩, rfl⟩
      · rintro (⟨f, hf | ⟨rfl, -, hothers⟩, rfl⟩ | ⟨⟨hnot, -⟩, -⟩)
        · exact Or.inl ⟨f, hf, rfl⟩
        · exact Or.inr ⟨hothers, rfl⟩
        · exact absurd hg hnot
    · rw [hleaves hg]
      constructor
      · rintro (⟨f, hf, rfl⟩ | ⟨hothers, hget⟩)
        · exact Or.inl ⟨f, Or.inl hf, rfl⟩
        · exact Or.inr ⟨⟨hg, hothers⟩, hget⟩
      · rintro (⟨f, hf | ⟨-, hdeclares, -⟩, rfl⟩ | ⟨⟨-, hothers⟩, hget⟩)
        · exact Or.inl ⟨f, hf, rfl⟩
        · exact absurd hdeclares hg
        · exact Or.inr ⟨hothers, hget⟩

theorem get?_functionIndex_eq_some_iff (files : List Node) (name : String) (d : Declarer) :
    (functionIndex files).get? name = some d ↔
      ∃ f, LastDeclarer files name f ∧ d = ⟨f.path, f.id⟩ := by
  unfold functionIndex Register.ofList
  rw [get?_putAll_flatMap_declarations]
  simp [Register.get?, Register.empty]

theorem functionIndex_append (files more : List Node) :
    functionIndex (files ++ more) = (functionIndex files).putAll (functionIndex more).entries := by
  unfold functionIndex
  rw [List.flatMap_append, Register.ofList_append]

/-- The names of the index are those that statements at the top level of the files declare, each
once and in the order of the first declarations. A name leads to the path and the identifier of the
last file that declares it. The index of more files is that of the first ones, in which the index of
the others is entered. -/
theorem functionIndex_leads_to_last_declarer (files : List Node) :
    (functionIndex files).keys = (declaredNames files).eraseDups ∧
    (functionIndex files).keys.Nodup ∧
    (∀ name, name ∈ (functionIndex files).keys ↔ ∃ f ∈ files, f.Declares name) ∧
    (∀ (f : Node) name, f.Declares name ↔ ∃ site ∈ f.sites, site.Declares name) ∧
    (∀ name d, (functionIndex files).get? name = some d ↔
      ∃ f, LastDeclarer files name f ∧ d = ⟨f.path, f.id⟩) ∧
    ∀ more, functionIndex (files ++ more) =
      (functionIndex files).putAll (functionIndex more).entries :=
  ⟨keys_functionIndex files, nodup_keys_functionIndex files, mem_keys_functionIndex_iff files,
    Node.declares_iff, get?_functionIndex_eq_some_iff files, functionIndex_append files⟩

end CodeAtlas
