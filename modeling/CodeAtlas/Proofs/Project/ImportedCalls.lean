-- The call edges of a file and its imports agree. Where all import statements stand at the top of a
-- file, the module that an imported callee comes from is one of the specifiers of the file, so the
-- file that this module leads to is among the imports of the file.
import CodeAtlas.Proofs.Calls.Resolution
import CodeAtlas.Proofs.Project.ImportGraph
import CodeAtlas.Proofs.Source.Comments

namespace CodeAtlas

/-! ## Imported callees and specifiers -/

namespace Source

variable {s : Source} {p : Phrase} {name module : String}

/-- Every import statement is a top-level statement with a module in quotes that is not empty. -/
def ImportsOnTop (s : Source) : Prop :=
  ∀ p ∈ s.root.preorder, Phrase.kind p = "import_statement" →
    p ∈ s.body ∧ ∃ source, Phrase.child? p .source = some source ∧ source.kind = "string" ∧
      s.unquoted source ≠ ""

theorem mem_specifiers_iff :
    module ∈ s.specifiers ↔ module ≠ "" ∧ ∃ p ∈ s.body, p.kind = "import_statement" ∧
      ∃ source, p.child? .source = some source ∧ source.kind = "string" ∧
        s.unquoted source = module := by
  unfold specifiers
  simp only [List.mem_filter, List.mem_map, List.mem_filterMap, decide_eq_true_eq]
  constructor
  · rintro ⟨⟨source, ⟨p, hp, hsource⟩, hmodule⟩, hne⟩
    split at hsource
    · rename_i hkind
      rw [Option.filter_eq_some_iff, decide_eq_true_eq] at hsource
      exact ⟨hne, p, hp, hkind, source, hsource.1, hsource.2, hmodule⟩
    · cases hsource
  · rintro ⟨hne, p, hp, hkind, source, hsource, hstring, hmodule⟩
    refine ⟨⟨source, ⟨p, hp, ?_⟩, hmodule⟩, hne⟩
    rw [if_pos hkind, hsource]
    simp [Option.filter, hstring]

/-- The module of an import statement is one of the specifiers. -/
theorem ImportsOnTop.mem_specifiers (htop : s.ImportsOnTop) (hp : p ∈ s.root.preorder)
    (himports : s.ImportsFrom module name p) : module ∈ s.specifiers := by
  obtain ⟨hkind, ⟨source, hsource, rfl⟩, -⟩ := himports
  obtain ⟨hbody, own, hown, hstring, hne⟩ := htop p hp hkind
  rw [hsource] at hown
  cases hown
  exact mem_specifiers_iff.2 ⟨hne, p, hbody, hkind, source, hsource, hstring, rfl⟩

theorem LastImport.exists_statement {phrases : List Phrase}
    (h : s.LastImport phrases module name) : ∃ p ∈ phrases, s.ImportsFrom module name p := by
  obtain ⟨before, statement, after, rfl, himports, -⟩ := h
  exact ⟨statement, by simp, himports⟩

/-- An imported callee comes from one of the specifiers. -/
theorem ImportsOnTop.exists_specifier (htop : s.ImportsOnTop) {e : CallEdge}
    (he : e ∈ s.callEdges) (himported : e.resolution.text = "imported") :
    ∃ module, e.resolution.source? = some module ∧ module ∈ s.specifiers := by
  rw [← Resolution.isSome_source?_iff, Option.isSome_iff_exists] at himported
  obtain ⟨module, hmodule⟩ := himported
  have hlast := ((source?_eq_some_iff_of_mem he module).1 hmodule).2
  obtain ⟨p, hp, himports⟩ := hlast.exists_statement
  exact ⟨module, hmodule, htop.mem_specifiers hp himports⟩

end Source

/-! ## Specifiers and imports -/

namespace Project

theorem imported?_of_find? {p : Project} {target : String} {g : Node}
    (hfind : p.find? target = some g)
    (hg : g.isParsed = true ∨ isSourceFile g.name.shown = false) :
    p.imported? target = some g := by
  rw [find?_eq_find?_openFiles] at hfind
  unfold imported?
  rw [hfind, Option.filter_eq_some_iff]
  refine ⟨rfl, ?_⟩
  unfold Node.isImportable
  rcases hg with hparsed | hplain
  · unfold Node.isParsed at hparsed
    simp_all
  · simp [hplain]

theorem getElem?_nodes_importGraph {p : Project} {i : Nat} {f : Node}
    (h : p.nodes[i]? = some f) : p.importGraph.nodes[i]? = some (p.resolveImports f) := by
  unfold importGraph
  rw [nodes_map, List.getElem?_map, h]
  rfl

/-- What a relative specifier of a file leads to is one of its imports. -/
theorem path_mem_imports {p : Project} {f g : Node} {s : Source} {module target : String}
    (hf : f ∈ p.parsedFiles) (hsource : f.source = some s) (hmodule : module ∈ s.specifiers)
    (htarget : Specifier.resolve module f.path.shown = .ok target)
    (hg : p.imported? target = some g) :
    ∃ path, g.path = .text path ∧ path ∈ (p.resolveImports f).imports := by
  unfold Specifier.resolve at htarget
  split at htarget
  · rename_i hrelative
    cases htarget
    have hspecifier : module ∈ relativeSpecifiers f := by
      unfold relativeSpecifiers
      rw [hsource]
      exact List.mem_filter.2 ⟨hmodule, hrelative⟩
    refine ⟨g.path.shown, Node.path_of_matchesPath (imported?_eq_some hg).2.1, ?_⟩
    rw [imports_resolveImports hf]
    refine List.mem_filterMap.2 ⟨module, hspecifier, ?_⟩
    rw [hg]
    rfl
  · cases htarget

/-- In a file whose import statements all stand on top, each imported callee comes from one of the
specifiers. If this is a relative one that leads to a file that was read or is no source file, the
path of that file is an import of the file. -/
theorem imported_calls_follow_imports (p : Project) (i : Nat) (f : Node) (s : Source)
    (hnode : p.nodes[i]? = some f) (hfile : f.isFile = true) (hsource : f.source = some s)
    (htop : s.ImportsOnTop) :
    ∀ e ∈ s.callEdges, e.resolution.text = "imported" →
      ∃ module, e.resolution.source? = some module ∧ module ∈ s.specifiers ∧
        ∀ target g, Specifier.resolve module f.path.shown = .ok target →
          p.find? target = some g → (g.isParsed = true ∨ isSourceFile g.name.shown = false) →
            ∃ linked path, p.importGraph.nodes[i]? = some linked ∧ linked.bare = f.bare ∧
              g.path = .text path ∧ path ∈ linked.imports := by
  intro e he himported
  obtain ⟨module, hmodule, hspecifier⟩ := htop.exists_specifier he himported
  refine ⟨module, hmodule, hspecifier, fun target g htarget hfind hg => ?_⟩
  have hparsed : f ∈ p.parsedFiles :=
    mem_parsedFiles.2 ⟨mem_files.2 ⟨List.mem_of_getElem? hnode, hfile⟩, by rw [hsource]; rfl⟩
  obtain ⟨path, hpath, hmem⟩ :=
    path_mem_imports hparsed hsource hspecifier htarget (imported?_of_find? hfind hg)
  exact ⟨p.resolveImports f, path, getElem?_nodes_importGraph hnode, p.resolveImports_bare f,
    hpath, hmem⟩

/-! ## A file that imports the one beside it -/

def importingFile : Node where
  id := "2"
  name := .text "a.ts"
  path := .text "src/a.ts"
  kind := .file
  source := some Source.remarks

def importedFile : Node where
  id := "3"
  name := .text "m.tsx"
  path := .text "src/m.tsx"
  kind := .file
  source := some Source.remarks

def importingProject : Project :=
  .node ⟨"0", .text "", .text "", .folder, none, none, []⟩
    [.node ⟨"1", .text "src", .text "src", .folder, none, none, []⟩
      [.node importingFile [], .node importedFile []]]

theorem importsOnTop_remarks : Source.remarks.ImportsOnTop := by
  have hstatements : Source.remarks.root.preorder.filter
      (fun p => Phrase.kind p = "import_statement") = Source.remarks.body.take 1 := rfl
  have hquoted : ∀ p ∈ Source.remarks.body.take 1, (p.child? .source).any fun source =>
      source.kind = "string" && Source.remarks.unquoted source ≠ "" := by
    decide +kernel
  intro p hp hkind
  have hmem : p ∈ Source.remarks.body.take 1 := by
    rw [← hstatements]
    exact List.mem_filter.2 ⟨hp, by simpa using hkind⟩
  obtain ⟨source, hsource, hok⟩ := (Option.any_eq_true _ _).1 (hquoted p hmem)
  refine ⟨List.mem_of_mem_take hmem, source, hsource, ?_⟩
  simpa using hok

theorem imported_calls_follow_imports_nested :
    importingProject.nodes[2]? = some importingFile ∧
      Source.remarks.ImportsOnTop ∧
      Source.remarks.callEdges = [⟨"g", "f", ⟨2, 23⟩, .imported "./m"⟩] ∧
      importingProject.find? "src/m" = some importedFile ∧
      ∃ linked, importingProject.importGraph.nodes[2]? = some linked ∧
        linked.bare = importingFile.bare ∧ "src/m.tsx" ∈ linked.imports := by
  have hedges : Source.remarks.callEdges = [⟨"g", "f", ⟨2, 23⟩, .imported "./m"⟩] := by
    decide +kernel
  have htarget : Specifier.resolve "./m" "src/a.ts" = .ok "src/m" := by decide +kernel
  have hfind : importingProject.find? "src/m" = some importedFile := rfl
  refine ⟨rfl, importsOnTop_remarks, hedges, hfind, ?_⟩
  have hlaw := imported_calls_follow_imports importingProject 2 importingFile Source.remarks rfl rfl
    rfl importsOnTop_remarks
  obtain ⟨module, hmodule, -, hfollows⟩ := hlaw _ (by rw [hedges]; exact List.mem_singleton_self _)
    rfl
  cases hmodule
  obtain ⟨linked, path, hnode, hbare, hpath, hmem⟩ :=
    hfollows "src/m" importedFile htarget hfind (Or.inl rfl)
  cases hpath
  exact ⟨linked, hnode, hbare, hmem⟩

end Project

end CodeAtlas
