-- The laws of the import graph. The imports of a file are what its relative specifiers lead to,
-- in whatever state of the graph they are looked up; and every import leads to a file of the
-- graph that was read or is no source file.
import CodeAtlas.Project.Imports
import CodeAtlas.Proofs.Project.Files
import CodeAtlas.Proofs.Register

namespace CodeAtlas

/-! ## Nodes without their imports -/

namespace Node

/-- The node without its imports. -/
def bare (n : Node) : Node := { n with imports := [] }

/-- An import may lead to the file: it was read, or it is no source file. -/
def isImportable (n : Node) : Bool := n.source.isSome || !isSourceFile n.name.shown

/-- What does not see imports is the same for nodes that differ in imports only. -/
theorem congr_bare {β : Type} {f : Node → β} (hf : ∀ n, f n.bare = f n) {m n : Node}
    (h : m.bare = n.bare) : f m = f n := by
  rw [← hf m, h, hf n]

theorem path_of_matchesPath {n : Node} {path : String} (h : n.matchesPath path = true) :
    n.path = .text n.path.shown := by
  cases hp : n.path <;> simp_all [matchesPath, Json.text?, Json.shown]

end Node

namespace Project

/-- The projects differ in the imports of their nodes only. -/
def SameButImports (p q : Project) : Prop := p.map Node.bare = q.map Node.bare

/-- The file that an import of the path leads to: the first one that matches, if an import may
lead to it. -/
def imported? (p : Project) (path : String) : Option Node :=
  (p.openFiles.find? fun n => n.matchesPath path).filter Node.isImportable

theorem imported?_eq_some {p : Project} {path : String} {n : Node} (h : p.imported? path = some n) :
    n ∈ p.files ∧ n.matchesPath path = true ∧ n.isImportable = true := by
  unfold imported? at h
  rw [Option.filter_eq_some_iff] at h
  obtain ⟨hfind, himportable⟩ := h
  have hmatch := List.find?_some hfind
  have hmem := (openFiles_sublist_files p).subset (List.mem_of_find?_eq_some hfind)
  exact ⟨hmem, hmatch, himportable⟩

/-- The lookup of an import does not see imports. -/
theorem imported?_map_bare (p : Project) (path : String) :
    imported? (p.map Node.bare) path = (p.imported? path).map Node.bare := by
  have hmatch : (fun n => Node.matchesPath n path) ∘ Node.bare = fun n => n.matchesPath path := rfl
  have himportable : Node.isImportable ∘ Node.bare = Node.isImportable := rfl
  unfold imported?
  rw [openFiles_map (f := Node.bare) fun n => rfl, List.find?_map, hmatch, Option.filter_map,
    himportable]

theorem path_imported?_congr {p q : Project} (h : q.SameButImports p) (path : String) :
    (q.imported? path).map Node.path = (p.imported? path).map Node.path := by
  have hbare : (q.imported? path).map Node.bare = (p.imported? path).map Node.bare := by
    rw [← imported?_map_bare, ← imported?_map_bare, h]
  have hpath := congrArg (Option.map Node.path) hbare
  rw [Option.map_map, Option.map_map] at hpath
  exact hpath

/-! ## What the imports of a file lead to -/

theorem resolve_of_isRelative {specifier : String} (h : Specifier.isRelative specifier = true)
    (path : String) : Specifier.resolve specifier path = .ok (Specifier.target specifier path) := by
  unfold Specifier.resolve
  rw [if_pos h]

/-- Relative specifiers can all be resolved. -/
theorem mapM_resolve {specifiers : List String}
    (h : ∀ specifier ∈ specifiers, Specifier.isRelative specifier = true) (path : String) :
    specifiers.mapM (fun specifier => Specifier.resolve specifier path) =
      .ok (specifiers.map fun specifier => Specifier.target specifier path) := by
  induction specifiers with
  | nil => rfl
  | cons specifier specifiers ih =>
    rw [List.mapM_cons, resolve_of_isRelative (h specifier (by simp)),
      ih fun other hother => h other (by simp [hother])]
    rfl

theorem path?_follow (p : Project) (path specifier : String) :
    (p.follow path specifier).path? =
      (p.imported? (Specifier.target specifier path)).map fun n => n.path.shown := by
  simp only [follow, imported?, find?_eq_find?_openFiles]
  cases p.openFiles.find? fun n => n.matchesPath (Specifier.target specifier path) with
  | none => rfl
  | some n =>
    cases hsource : n.source <;> cases hname : isSourceFile n.name.shown <;>
      simp [Option.filter, Node.isImportable, ImportResult.path?, hsource, hname]

theorem text_shown_imported? (p : Project) (path : String) :
    (p.imported? path).map (fun n => Json.text n.path.shown) =
      (p.imported? path).map Node.path := by
  cases h : p.imported? path with
  | none => rfl
  | some n =>
    have hpath := Node.path_of_matchesPath (imported?_eq_some h).2.1
    rw [Option.map_some, Option.map_some, ← hpath]

/-! ## The graph and the project -/

theorem resolveImports_bare (p : Project) (n : Node) : (p.resolveImports n).bare = n.bare := by
  unfold resolveImports
  split <;> rfl

theorem isFile_resolveImports (p : Project) (n : Node) :
    (p.resolveImports n).isFile = n.isFile := by
  unfold resolveImports
  split <;> rfl

theorem source_resolveImports (p : Project) (n : Node) :
    (p.resolveImports n).source = n.source := by
  unfold resolveImports
  split <;> rfl

theorem path_resolveImports (p : Project) (n : Node) : (p.resolveImports n).path = n.path := by
  unfold resolveImports
  split <;> rfl

theorem sameButImports_importGraph (p : Project) : p.importGraph.SameButImports p := by
  unfold SameButImports importGraph
  rw [Tree.map_map]
  congr 1
  funext n
  exact p.resolveImports_bare n

/-- Where no file has anything below it, the lookup of an import sees every file. -/
theorem openFiles_importGraph {p : Project} (h : p.FilesAreLeaves) :
    p.importGraph.openFiles = p.importGraph.files := by
  unfold importGraph
  rw [openFiles_map p.isFile_resolveImports, files_map p.isFile_resolveImports,
    openFiles_eq_files p h]

theorem parsedFiles_importGraph (p : Project) :
    p.importGraph.parsedFiles = p.parsedFiles.map p.resolveImports :=
  parsedFiles_map p.isFile_resolveImports p.source_resolveImports p

/-- The imports of a file that was read. -/
theorem imports_resolveImports {p : Project} {n : Node} (h : n ∈ p.parsedFiles) :
    (p.resolveImports n).imports =
      (relativeSpecifiers n).filterMap fun specifier =>
        (p.imported? (Specifier.target specifier n.path.shown)).map fun m => m.path.shown := by
  have hparsed : n.isParsed = true := (List.mem_filter.1 h).2
  unfold resolveImports followAll
  rw [if_pos hparsed]
  simp only [List.filterMap_map]
  congr 1
  funext specifier
  exact p.path?_follow n.path.shown specifier

/-! ## The laws -/

theorem SameButImports.symm {p q : Project} (h : p.SameButImports q) : q.SameButImports p :=
  Eq.symm h

theorem SameButImports.trans {p q r : Project} (h : p.SameButImports q) (h' : q.SameButImports r) :
    p.SameButImports r :=
  Eq.trans h h'

/-- The specifiers of a file that was read can all be resolved, and its imports are what is found
at their targets in any project that differs in imports only. -/
theorem imports_of_mem {p : Project} {f : Node} (h : f ∈ p.importGraph.parsedFiles) :
    ∃ source targets, f.source = some source ∧
      (source.specifiers.filter Specifier.isRelative).mapM
        (fun specifier => Specifier.resolve specifier f.path.shown) = .ok targets ∧
      ∀ q : Project, q.SameButImports p.importGraph →
        f.imports.map Json.text = (targets.filterMap q.imported?).map Node.path := by
  rw [parsedFiles_importGraph] at h
  obtain ⟨n, hn, rfl⟩ := List.mem_map.1 h
  obtain ⟨source, hsource⟩ := Option.isSome_iff_exists.1 (mem_parsedFiles.1 hn).2
  have hrelative : relativeSpecifiers n = source.specifiers.filter Specifier.isRelative := by
    simp [relativeSpecifiers, hsource]
  refine ⟨source, _, (p.source_resolveImports n).trans hsource,
    mapM_resolve (fun _ hspecifier => (List.mem_filter.1 hspecifier).2) _, ?_⟩
  intro q hq
  have hsame : q.SameButImports p := hq.trans p.sameButImports_importGraph
  rw [imports_resolveImports hn, hrelative, path_resolveImports, List.map_filterMap,
    List.filterMap_map, List.map_filterMap]
  congr 1
  funext specifier
  rw [Option.map_map]
  exact (p.text_shown_imported? _).trans (path_imported?_congr hsame.symm _)

/-- Every import leads to a file of the graph that was read or is no source file. -/
theorem exists_imported {p : Project} {f : Node} {path : String}
    (h : f ∈ p.importGraph.parsedFiles) (hpath : path ∈ f.imports) :
    ∃ n ∈ p.importGraph.files, n.path = .text path ∧ n.isImportable = true := by
  obtain ⟨source, targets, -, -, himports⟩ := imports_of_mem h
  have hmem : Json.text path ∈ (targets.filterMap p.importGraph.imported?).map Node.path := by
    rw [← himports p.importGraph rfl]
    exact List.mem_map_of_mem hpath
  obtain ⟨n, hn, hnpath⟩ := List.mem_map.1 hmem
  obtain ⟨target, -, htarget⟩ := List.mem_filterMap.1 hn
  obtain ⟨hfile, -, himportable⟩ := imported?_eq_some htarget
  exact ⟨n, hfile, hnpath, himportable⟩

theorem mem_keys_adjacency {p : Project} {f : Node} {path : String} (h : f ∈ p.parsedFiles)
    (hpath : f.path = .text path) : .text path ∈ p.adjacency.keys := by
  simp only [adjacency, Register.mem_keys_ofList, List.map_map, List.mem_map, Function.comp]
  exact ⟨f, h, by rw [hpath, Label.firstOf_text]⟩

theorem exists_of_mem_adjacency {p : Project} {entry : Label × List String}
    (h : entry ∈ p.adjacency.entries) : ∃ f ∈ p.parsedFiles, f.imports = entry.2 := by
  obtain ⟨f, hf, hentry⟩ := List.mem_map.1 (Register.mem_of_mem_ofList h)
  exact ⟨f, hf, by rw [← hentry]⟩

/-- The import graph of a project is the project with other imports. The imports of a file that
was read are, in order and as often as they occur, the paths of what its relative specifiers lead
to; these can all be resolved, and it does not matter which of the imports are already there when
the lookup is made. The lookup sees every file, unless there is something below a file. An import
is always the path of a file of the graph that was read or is no source file, so what the adjacency
leads to is one of its keys or a file that is no source file. -/
theorem importGraph_imports (p : Project) :
    p.importGraph.SameButImports p ∧
    (p.FilesAreLeaves → p.importGraph.openFiles = p.importGraph.files) ∧
    (∀ f ∈ p.importGraph.parsedFiles, ∃ source targets, f.source = some source ∧
      (source.specifiers.filter Specifier.isRelative).mapM
        (fun specifier => Specifier.resolve specifier f.path.shown) = .ok targets ∧
      ∀ q : Project, q.SameButImports p.importGraph →
        f.imports.map Json.text = (targets.filterMap q.imported?).map Node.path) ∧
    (∀ f ∈ p.importGraph.parsedFiles, ∀ path ∈ f.imports, ∃ n ∈ p.importGraph.files,
      n.path = .text path ∧ (n.isParsed ∨ isSourceFile n.name.shown = false)) ∧
    (∀ entry ∈ p.importGraph.adjacency.entries, ∀ path ∈ entry.2,
      .text path ∈ p.importGraph.adjacency.keys ∨
        ∃ n ∈ p.importGraph.files, n.path = .text path ∧ isSourceFile n.name.shown = false) := by
  have hfound : ∀ f ∈ p.importGraph.parsedFiles, ∀ path ∈ f.imports, ∃ n ∈ p.importGraph.files,
      n.path = .text path ∧ (n.isParsed ∨ isSourceFile n.name.shown = false) := by
    intro f hf path hpath
    obtain ⟨n, hn, hnpath, himportable⟩ := exists_imported hf hpath
    refine ⟨n, hn, hnpath, ?_⟩
    simpa [Node.isParsed, Node.isImportable, (mem_files.1 hn).2] using himportable
  refine ⟨p.sameButImports_importGraph, openFiles_importGraph, fun f hf => imports_of_mem hf,
    hfound, ?_⟩
  intro entry hentry path hpath
  obtain ⟨f, hf, himports⟩ := exists_of_mem_adjacency hentry
  obtain ⟨n, hn, hnpath, hparsed | hplain⟩ := hfound f hf path (himports ▸ hpath)
  · exact Or.inl (mem_keys_adjacency (List.mem_filter.2 ⟨hn, hparsed⟩) hnpath)
  · exact Or.inr ⟨n, hn, hnpath, hplain⟩

end Project

end CodeAtlas
