-- The laws of how called names are resolved. The two readings of a file agree on its functions, and
-- an imported name comes from the last import statement that binds it.
import CodeAtlas.Proofs.Register
import CodeAtlas.Report.Record

namespace CodeAtlas

namespace Source

variable {s : Source} {p : Phrase} {name module : String}

/-! ## The functions of a file -/

/-- A phrase that brings in a function declares or binds the name of the function, if it has one. -/
theorem functionName?_eq_bind (s : Source) (p : Phrase) :
    s.functionName? p = (s.function? p).bind NamedFunction.name := by
  unfold functionName? function?
  by_cases hdeclares : p.isDeclaration
  · simp [hdeclares]
  · by_cases hkind : p.kind = "variable_declarator"
    · cases hbound : p.bound? <;> simp [hdeclares, hkind]
    · cases hdefault : p.defaultFunction? <;> simp [hdeclares, hkind]

/-- Both readings of a file find the same names, in the same order. -/
theorem functions_eq (s : Source) :
    s.symbols.functions = s.namedFunctions.filterMap NamedFunction.name := by
  have hnames : s.functionName? = fun p => (s.function? p).bind NamedFunction.name := by
    funext p
    exact s.functionName?_eq_bind p
  unfold symbols namedFunctions
  rw [List.filterMap_filterMap, hnames]

theorem mem_functions_iff (s : Source) (name : String) :
    name ∈ s.symbols.functions ↔ ∃ f ∈ s.namedFunctions, f.name = some name := by
  rw [functions_eq, List.mem_filterMap]

theorem exists_name_of_bound? {node value : Phrase} (h : p.bound? = some (node, value)) :
    p.child? .name = some node := by
  unfold Phrase.bound? at h
  cases hname : p.child? .name with
  | none => simp [hname] at h
  | some name =>
    cases hvalue : p.child? .value with
    | none => simp [hname, hvalue] at h
    | some bound =>
      simp only [hname, hvalue] at h
      split at h
      · cases h
        rfl
      · cases h

/-- The name of a function is what stands where its phrase is named. -/
theorem exists_name_of_function? {f : NamedFunction} (h : s.function? p = some f)
    (hname : f.name = some name) : ∃ node, p.child? .name = some node ∧ s.textOf node = name := by
  unfold function? at h
  split at h
  · cases h
    obtain ⟨node, hnode, htext⟩ := Option.map_eq_some_iff.1 hname
    exact ⟨node, hnode, htext⟩
  · split at h
    · obtain ⟨⟨node, value⟩, hbound, rfl⟩ := Option.map_eq_some_iff.1 h
      exact ⟨node, exists_name_of_bound? hbound, Option.some.inj hname⟩
    · obtain ⟨value, -, rfl⟩ := Option.map_eq_some_iff.1 h
      cases hname

/-! ## What an import statement binds -/

/-- An import specifier binds the name: its alias, or its name if it has no alias, is an identifier
with this text. -/
def SpecifierBinds (s : Source) (name : String) (specifier : Phrase) : Prop :=
  ∃ own, (specifier.child? .alias).or (specifier.child? .name) = some own ∧
    own.kind = "identifier" ∧ s.textOf own = name

/-- A part of an import clause binds the name: it is an identifier with this text, or one of the
specifiers in its braces binds the name. -/
def PartBinds (s : Source) (name : String) (part : Phrase) : Prop :=
  part.kind = "identifier" ∧ s.textOf part = name ∨
    part.kind = "named_imports" ∧ ∃ specifier ∈ part.namedChildren,
      specifier.kind = "import_specifier" ∧ s.SpecifierBinds name specifier

/-- The phrase is an import statement from the module, and a part of its clause binds the name. -/
def ImportsFrom (s : Source) (module name : String) (statement : Phrase) : Prop :=
  statement.kind = "import_statement" ∧
    (∃ source, statement.child? .source = some source ∧ s.unquoted source = module) ∧
    ∃ clause ∈ statement.children, Phrase.kind clause = "import_clause" ∧
      ∃ part ∈ Tree.children clause, s.PartBinds name part

theorem specifierName?_eq_some_iff (s : Source) (name : String) (specifier : Phrase) :
    s.specifierName? specifier = some name ↔ s.SpecifierBinds name specifier := by
  unfold specifierName? SpecifierBinds
  simp only [Option.map_eq_some_iff, Option.filter_eq_some_iff, decide_eq_true_eq, and_assoc]

theorem mem_clauseNames_iff (s : Source) (name : String) (part : Phrase) :
    name ∈ s.clauseNames part ↔ s.PartBinds name part := by
  unfold clauseNames PartBinds
  by_cases hidentifier : part.kind = "identifier"
  · simp [hidentifier, eq_comm]
  · by_cases hbraces : part.kind = "named_imports"
    · simp [hbraces, specifierName?_eq_some_iff, and_assoc]
    · simp [hidentifier, hbraces]

/-- The bindings of a phrase are the names that it imports, each from its module. -/
theorem mem_bindingsAt_iff (s : Source) (name module : String) (p : Phrase) :
    (name, module) ∈ s.bindingsAt p ↔ s.ImportsFrom module name p := by
  unfold bindingsAt bindings ImportsFrom
  by_cases hkind : p.kind = "import_statement"
  · cases hsource : p.child? .source with
    | none => simp [hkind]
    | some source =>
      simp only [hkind, if_true, true_and, List.mem_map, List.mem_flatMap, List.mem_filter,
        decide_eq_true_eq, mem_clauseNames_iff, Prod.mk.injEq, Option.some.injEq,
        exists_eq_left']
      constructor
      · rintro ⟨_, ⟨clause, ⟨hclause, hkind⟩, part, hpart, hbinds⟩, rfl, hmodule⟩
        exact ⟨hmodule, clause, hclause, hkind, part, hpart, hbinds⟩
      · rintro ⟨hmodule, clause, hclause, hkind, part, hpart, hbinds⟩
        exact ⟨name, ⟨clause, ⟨hclause, hkind⟩, part, hpart, hbinds⟩, rfl, hmodule⟩
  · simp [hkind]

/-- An import statement has one module for all that it binds. -/
theorem ImportsFrom.module_eq {module' name' : String} (h : s.ImportsFrom module name p)
    (h' : s.ImportsFrom module' name' p) : module' = module := by
  obtain ⟨-, ⟨source, hsource, rfl⟩, -⟩ := h
  obtain ⟨-, ⟨source', hsource', rfl⟩, -⟩ := h'
  rw [hsource] at hsource'
  cases hsource'
  rfl

/-! ## The last import of a name -/

/-- Of some phrases, the last one that imports the name imports it from the module. -/
def LastImport (s : Source) (phrases : List Phrase) (module name : String) : Prop :=
  ∃ before statement after, phrases = before ++ statement :: after ∧
    s.ImportsFrom module name statement ∧
    ∀ later ∈ after, ∀ other, ¬ s.ImportsFrom other name later

theorem not_lastImport_nil : ¬ s.LastImport [] module name := by
  rintro ⟨before, statement, after, hnil, -⟩
  simp at hnil

theorem lastImport_cons_iff {phrases : List Phrase} :
    s.LastImport (p :: phrases) module name ↔ s.LastImport phrases module name ∨
      s.ImportsFrom module name p ∧
        ∀ later ∈ phrases, ∀ other, ¬ s.ImportsFrom other name later := by
  constructor
  · rintro ⟨before, statement, after, hphrases, himports, hlater⟩
    cases before with
    | nil =>
      cases hphrases
      exact Or.inr ⟨himports, hlater⟩
    | cons first before =>
      cases hphrases
      exact Or.inl ⟨before, statement, after, rfl, himports, hlater⟩
  · rintro (⟨before, statement, after, rfl, himports, hlater⟩ | ⟨himports, hlater⟩)
    · exact ⟨p :: before, statement, after, rfl, himports, hlater⟩
    · exact ⟨[], p, phrases, rfl, himports, hlater⟩

/-- What a single phrase changes: it gives the names that it imports its module, and no other name
is touched. -/
theorem get?_putAll_bindingsAt (r : Register String String) (p : Phrase) :
    (r.putAll (s.bindingsAt p)).get? name = some module ↔ s.ImportsFrom module name p ∨
      (∀ other, ¬ s.ImportsFrom other name p) ∧ r.get? name = some module := by
  rw [Register.get?_putAll]
  cases hlookup : (s.bindingsAt p).reverse.lookup name with
  | none =>
    have hnone : ∀ other, ¬ s.ImportsFrom other name p := by
      intro other himports
      have hmem := (s.mem_bindingsAt_iff name other p).2 himports
      apply (Register.lookup_eq_none_iff _ name).1 hlookup
      exact List.mem_map.2 ⟨_, List.mem_reverse.2 hmem, rfl⟩
    simp [hnone]
  | some found =>
    have hfound : s.ImportsFrom found name p := by
      obtain ⟨before, after, hsplit, -⟩ := List.lookup_eq_some_iff.1 hlookup
      apply (s.mem_bindingsAt_iff name found p).1
      rw [← List.mem_reverse, hsplit]
      simp
    constructor
    · intro heq
      cases heq
      exact Or.inl hfound
    · rintro (himports | ⟨hnone, -⟩)
      · rw [himports.module_eq hfound]
        rfl
      · exact absurd hfound (hnone found)

/-- What all phrases of a walk change, one after the other. -/
theorem get?_putAll_flatMap (r : Register String String) (phrases : List Phrase) :
    (r.putAll (phrases.flatMap s.bindingsAt)).get? name = some module ↔
      s.LastImport phrases module name ∨
        (∀ p ∈ phrases, ∀ other, ¬ s.ImportsFrom other name p) ∧ r.get? name = some module := by
  induction phrases generalizing r with
  | nil =>
    have hnil : ¬ s.LastImport [] module name := not_lastImport_nil
    simp [hnil, Register.putAll]
  | cons p phrases ih =>
    rw [List.flatMap_cons, Register.putAll_append, ih, get?_putAll_bindingsAt, lastImport_cons_iff,
      List.forall_mem_cons]
    constructor
    · rintro (hlast | ⟨hlater, himports | ⟨hnone, hget⟩⟩)
      · exact Or.inl (Or.inl hlast)
      · exact Or.inl (Or.inr ⟨himports, hlater⟩)
      · exact Or.inr ⟨⟨hnone, hlater⟩, hget⟩
    · rintro ((hlast | ⟨himports, hlater⟩) | ⟨⟨hnone, hlater⟩, hget⟩)
      · exact Or.inl hlast
      · exact Or.inr ⟨hlater, Or.inl himports⟩
      · exact Or.inr ⟨hlater, Or.inr ⟨hnone, hget⟩⟩

theorem imports_get?_eq_some_iff (s : Source) (name module : String) :
    s.symbols.imports.get? name = some module ↔ s.LastImport s.root.preorder module name := by
  unfold symbols Register.ofList
  rw [Tree.walk_eq_preorder, get?_putAll_flatMap]
  simp [Register.empty, Register.get?]

/-- The imported names are those that some import statement binds. -/
theorem mem_keys_imports_iff (s : Source) (name : String) :
    name ∈ s.symbols.imports.keys ↔
      ∃ p ∈ s.root.preorder, ∃ module, s.ImportsFrom module name p := by
  unfold symbols
  simp only [Register.mem_keys_ofList, Tree.walk_eq_preorder, List.mem_map, List.mem_flatMap]
  constructor
  · rintro ⟨⟨_, module⟩, ⟨p, hp, hmem⟩, rfl⟩
    exact ⟨p, hp, module, (s.mem_bindingsAt_iff _ module p).1 hmem⟩
  · rintro ⟨p, hp, module, himports⟩
    exact ⟨(name, module), ⟨p, hp, (s.mem_bindingsAt_iff name module p).2 himports⟩, rfl⟩

end Source

/-! ## Where a name comes from -/

namespace Symbols

variable {symbols : Symbols} {name module : String}

theorem resolve_eq_ownFunction_iff :
    symbols.resolve name = .ownFunction ↔ name ∈ symbols.functions := by
  unfold resolve
  by_cases hmem : name ∈ symbols.functions
  · simp [hmem]
  · cases hget : symbols.imports.get? name <;> simp [hmem]

/-- An imported name is none of the functions of the file. -/
theorem resolve_eq_imported_iff :
    symbols.resolve name = .imported module ↔
      name ∉ symbols.functions ∧ symbols.imports.get? name = some module := by
  unfold resolve
  by_cases hmem : name ∈ symbols.functions
  · simp [hmem]
  · cases hget : symbols.imports.get? name <;> simp [hmem]

theorem resolve_eq_unknown_iff :
    symbols.resolve name = .unknown ↔
      name ∉ symbols.functions ∧ name ∉ symbols.imports.keys := by
  rw [← Register.get?_eq_none_iff]
  unfold resolve
  by_cases hmem : name ∈ symbols.functions
  · simp [hmem]
  · cases hget : symbols.imports.get? name <;> simp [hmem]

end Symbols

namespace Resolution

theorem text_eq_local_iff (r : Resolution) : r.text = "local" ↔ r = .ownFunction := by
  cases r <;> simp [text]

theorem text_eq_unknown_iff (r : Resolution) : r.text = "unknown" ↔ r = .unknown := by
  cases r <;> simp [text]

theorem source?_eq_some_iff (r : Resolution) (module : String) :
    r.source? = some module ↔ r = .imported module := by
  cases r <;> simp [source?]

/-- Exactly what is imported has a module that it comes from. -/
theorem isSome_source?_iff (r : Resolution) : r.source?.isSome ↔ r.text = "imported" := by
  cases r <;> simp [source?, text]

end Resolution

/-- The report of an edge names the module that the callee comes from, and no module if there is
none. -/
theorem CallEdge.source_toJson (e : CallEdge) :
    e.toJson.get? "source" = e.resolution.source?.map .text := by
  unfold CallEdge.toJson EdgeRecord.toJson CallEdge.record Json.get?
  cases e.resolution <;> simp [Resolution.source?, Json.ofText?, List.lookup_cons]

/-! ## The resolution of call edges -/

namespace Source

variable {s : Source} {e : CallEdge}

theorem resolution_of_mem_callEdges (he : e ∈ s.callEdges) :
    e.resolution = s.symbols.resolve e.callee := by
  unfold callEdges at he
  obtain ⟨site, -, rfl⟩ := List.mem_map.1 he
  rfl

theorem text_eq_local_iff_of_mem (he : e ∈ s.callEdges) :
    e.resolution.text = "local" ↔ ∃ f ∈ s.namedFunctions, f.name = some e.callee := by
  rw [Resolution.text_eq_local_iff, resolution_of_mem_callEdges he,
    Symbols.resolve_eq_ownFunction_iff, mem_functions_iff]

theorem source?_eq_some_iff_of_mem (he : e ∈ s.callEdges) (module : String) :
    e.resolution.source? = some module ↔
      e.callee ∉ s.symbols.functions ∧ s.LastImport s.root.preorder module e.callee := by
  rw [Resolution.source?_eq_some_iff, resolution_of_mem_callEdges he,
    Symbols.resolve_eq_imported_iff, imports_get?_eq_some_iff]

theorem text_eq_imported_iff_of_mem (he : e ∈ s.callEdges) :
    e.resolution.text = "imported" ↔ e.callee ∉ s.symbols.functions ∧
      ∃ p ∈ s.root.preorder, ∃ module, s.ImportsFrom module e.callee p := by
  rw [← Resolution.isSome_source?_iff, ← mem_keys_imports_iff, Option.isSome_iff_exists]
  simp only [Resolution.source?_eq_some_iff, resolution_of_mem_callEdges he,
    Symbols.resolve_eq_imported_iff, exists_and_left]
  rw [← Option.isSome_iff_exists, Register.isSome_get?_iff]

/-- A member access is resolved by its whole text, which is no symbol where symbols have no dots. -/
theorem text_eq_unknown_of_member (he : e ∈ s.callEdges)
    (hdot : ∀ name ∈ s.symbols.functions ++ s.symbols.imports.keys, '.' ∉ name.toList)
    (object property : String) (hcallee : e.callee = object ++ "." ++ property) :
    e.resolution.text = "unknown" := by
  have hmem : '.' ∈ e.callee.toList := by simp [hcallee]
  rw [Resolution.text_eq_unknown_iff, resolution_of_mem_callEdges he,
    Symbols.resolve_eq_unknown_iff]
  constructor
  · intro hfunction
    exact hdot _ (List.mem_append_left _ hfunction) hmem
  · intro himport
    exact hdot _ (List.mem_append_right _ himport) hmem

theorem caller_of_name {f : NamedFunction} (hf : f ∈ s.namedFunctions) {name : String}
    (hname : f.name = some name) :
    f.caller = name ∧ ∃ p ∈ s.root.preorder, ∃ node, Phrase.child? p .name = some node ∧
      s.textOf node = name := by
  unfold namedFunctions at hf
  rw [Tree.walk_eq_preorder] at hf
  obtain ⟨p, hp, hfunction⟩ := List.mem_filterMap.1 hf
  refine ⟨?_, p, hp, exists_name_of_function? hfunction hname⟩
  unfold NamedFunction.caller
  rw [hname]
  rfl

/-- The names that resolve as functions of the file are those that its functions take from a name
node, so a call of such a name stays in the file. A call of any other name is imported exactly if
some import statement binds the name, and then from the module of the last statement that does. -/
theorem callEdges_resolution (s : Source) :
    s.symbols.functions = s.namedFunctions.filterMap NamedFunction.name ∧
      (∀ f ∈ s.namedFunctions,
        (∀ name, f.name = some name → f.caller = name ∧ ∃ p ∈ s.root.preorder, ∃ node,
          Phrase.child? p .name = some node ∧ s.textOf node = name) ∧
        (f.name = none → f.caller = "<anonymous>")) ∧
      ∀ e ∈ s.callEdges,
        (e.resolution.text = "local" ↔ ∃ f ∈ s.namedFunctions, f.name = some e.callee) ∧
        (e.resolution.text = "imported" ↔ e.callee ∉ s.symbols.functions ∧
          ∃ p ∈ s.root.preorder, ∃ module, s.ImportsFrom module e.callee p) ∧
        (∀ module, e.resolution.source? = some module ↔
          e.callee ∉ s.symbols.functions ∧ s.LastImport s.root.preorder module e.callee) ∧
        (e.resolution.source?.isSome ↔ e.resolution.text = "imported") ∧
        e.toJson.get? "source" = e.resolution.source?.map .text ∧
        ((∀ name ∈ s.symbols.functions ++ s.symbols.imports.keys, '.' ∉ name.toList) →
          ∀ object property, e.callee = object ++ "." ++ property →
            e.resolution.text = "unknown") := by
  refine ⟨s.functions_eq, fun f hf => ⟨fun name => caller_of_name hf, ?_⟩, fun e he => ?_⟩
  · intro hname
    unfold NamedFunction.caller
    rw [hname]
    rfl
  · exact ⟨text_eq_local_iff_of_mem he, text_eq_imported_iff_of_mem he,
      source?_eq_some_iff_of_mem he, e.resolution.isSome_source?_iff, e.source_toJson,
      text_eq_unknown_of_member he⟩

end Source

end CodeAtlas
