-- What a file hides. An import leads to the first file that matches, so a source file that was not
-- read can stand before another one that matches as well. In the project without that file the
-- imports are the same exactly if it hides nothing.
import CodeAtlas.Project.Dependencies
import CodeAtlas.Proofs.Project.ImportGraph
import Mathlib.Data.List.Forall2

namespace CodeAtlas

theorem filterMap_sublist {α β : Type} {f g : α → Option β} {l : List α}
    (h : ∀ a ∈ l, f a = g a ∨ f a = none) : (l.filterMap f).Sublist (l.filterMap g) := by
  induction l with
  | nil => simp
  | cons a l ih =>
    obtain ⟨ha, hl⟩ := List.forall_mem_cons.1 h
    have hrest := ih hl
    rcases ha with ha | ha
    · rw [List.filterMap_cons, List.filterMap_cons, ha]
      cases g a with
      | none => exact hrest
      | some b => exact hrest.cons_cons b
    · rw [List.filterMap_cons_none ha]
      cases hg : g a with
      | none => simpa [hg] using hrest
      | some b =>
        rw [List.filterMap_cons_some hg]
        exact hrest.cons b

/-- If one function only gives less than another, they give the same list only if they agree. -/
theorem filterMap_eq_iff {α β : Type} {f g : α → Option β} {l : List α}
    (h : ∀ a ∈ l, f a = g a ∨ f a = none) :
    l.filterMap f = l.filterMap g ↔ ∀ a ∈ l, f a = g a := by
  induction l with
  | nil => simp
  | cons a l ih =>
    obtain ⟨ha, hl⟩ := List.forall_mem_cons.1 h
    rw [List.forall_mem_cons, ← ih hl]
    rcases ha with ha | ha
    · rw [List.filterMap_cons, List.filterMap_cons, ha]
      cases g a <;> simp
    · rw [List.filterMap_cons_none ha]
      cases hg : g a with
      | none => simp [hg, ha]
      | some b =>
        -- the second list is longer
        have hle := (filterMap_sublist hl).length_le
        rw [List.filterMap_cons_some hg]
        constructor
        · intro heq
          rw [heq, List.length_cons] at hle
          omega
        · rintro ⟨hab, -⟩
          rw [ha] at hab
          cases hab

namespace Project

/-- The file at `gone` is the first one that matches the path, and the first one after it is a file
that an import may lead to. -/
def HidesAt (p : Project) (gone : Label) (path : String) : Prop :=
  ∃ g other, p.files.find? (fun n => n.matchesPath path) = some g ∧ g.path = gone ∧
    (p.files.filter fun n => n.path ≠ gone).find? (fun n => n.matchesPath path) = some other ∧
      other.isImportable = true

/-- The file at `gone` hides another one from an import of the project. -/
def Hides (p : Project) (gone : Label) : Prop :=
  ∃ f ∈ p.parsedFiles, ∃ specifier ∈ relativeSpecifiers f,
    p.HidesAt gone (Specifier.target specifier f.path.shown)

/-- The second project has the files of the first one but the one at `gone`, and no import leads
to that one. -/
structure Lacks (p p' : Project) (gone : Label) : Prop where
  placed : p.WellPlaced
  placed' : p'.WellPlaced
  files_eq : p'.files = p.files.filter fun n => n.path ≠ gone
  unread : ∀ f ∈ p.files, f.path = gone → f.isImportable = false

namespace Lacks

variable {p p' : Project} {gone : Label}

theorem parsedFiles_eq (h : Lacks p p' gone) : p'.parsedFiles = p.parsedFiles := by
  unfold parsedFiles
  rw [h.files_eq, List.filter_filter]
  refine List.filter_congr fun f hf => ?_
  by_cases hpath : f.path = gone
  · have hunread := h.unread f hf hpath
    simp only [Node.isImportable, Bool.or_eq_false_iff] at hunread
    simp [Node.isParsed, hunread.1]
  · simp [hpath]

theorem imported?_eq (h : p.WellPlaced) (path : String) :
    p.imported? path = (p.files.find? fun n => n.matchesPath path).filter Node.isImportable := by
  unfold imported?
  rw [openFiles_eq_files p h.leaves]

theorem find?_eq_none (h : Lacks p p' gone) {path : String}
    (hfind : p.files.find? (fun n => n.matchesPath path) = none) :
    p'.files.find? (fun n => n.matchesPath path) = none := by
  rw [h.files_eq, List.find?_eq_none]
  intro n hn
  exact List.find?_eq_none.1 hfind n (List.mem_filter.1 hn).1

theorem find?_eq_some (h : Lacks p p' gone) {path : String} {g : Node}
    (hfind : p.files.find? (fun n => n.matchesPath path) = some g) (hg : g.path ≠ gone) :
    p'.files.find? (fun n => n.matchesPath path) = some g := by
  obtain ⟨hmatch, before, after, hsplit, hbefore⟩ := List.find?_eq_some_iff_append.1 hfind
  rw [h.files_eq, List.find?_eq_some_iff_append]
  refine ⟨hmatch, before.filter fun n => n.path ≠ gone, after.filter fun n => n.path ≠ gone, ?_, ?_⟩
  · rw [hsplit, List.filter_append, List.filter_cons_of_pos (by simpa using hg)]
  · intro n hn
    exact hbefore n (List.mem_filter.1 hn).1

/-- An import leads to the same file in both projects, or to none in the first one; then the
second one tells whether something was hidden. -/
theorem imported?_cases (h : Lacks p p' gone) (path : String) :
    (p.imported? path = p'.imported? path ∧ ¬ p.HidesAt gone path) ∨
      (p.imported? path = none ∧ (p.HidesAt gone path ↔ (p'.imported? path).isSome)) := by
  have hfirst := imported?_eq h.placed path
  have hsecond := imported?_eq h.placed' path
  cases hfind : p.files.find? fun n => n.matchesPath path with
  | none =>
    left
    rw [hfirst, hsecond, h.find?_eq_none hfind, hfind]
    refine ⟨rfl, ?_⟩
    rintro ⟨g, other, hg, -⟩
    rw [hfind] at hg
    cases hg
  | some g =>
    by_cases hg : g.path = gone
    · -- the file is found first, so that the import leads nowhere as long as it is there
      right
      have hunread := h.unread g (List.mem_of_find?_eq_some hfind) hg
      rw [hfirst, hsecond, hfind, h.files_eq]
      refine ⟨by simp [Option.filter, hunread], ?_⟩
      constructor
      · rintro ⟨g', other, -, -, hother, himportable⟩
        rw [hother, Option.filter_some_pos himportable]
        rfl
      · intro hsome
        obtain ⟨other, hother⟩ := Option.isSome_iff_exists.1 hsome
        obtain ⟨hother, himportable⟩ := Option.filter_eq_some_iff.1 hother
        exact ⟨g, other, hfind, hg, hother, himportable⟩
    · left
      rw [hfirst, hsecond, h.find?_eq_some hfind hg, hfind]
      refine ⟨rfl, ?_⟩
      rintro ⟨g', other, hg', hpath, -⟩
      rw [hfind] at hg'
      cases hg'
      exact hg hpath

/-! ## Imports -/

/-- The imports of a file that was read, in both projects, when what they lead to is compared. -/
theorem imported?_path_cases (h : Lacks p p' gone) (path : String) :
    ((p.imported? path).map fun m => m.path.shown) =
        ((p'.imported? path).map fun m => m.path.shown) ∨
      ((p.imported? path).map fun m => m.path.shown) = none := by
  rcases h.imported?_cases path with ⟨hsame, -⟩ | ⟨hnone, -⟩
  · rw [hsame]
    exact Or.inl rfl
  · rw [hnone]
    exact Or.inr rfl

/-- A file keeps its imports and may get more. -/
theorem imports_sublist (h : Lacks p p' gone) {n : Node} (hn : n ∈ p.parsedFiles) :
    (p.resolveImports n).imports.Sublist (p'.resolveImports n).imports := by
  have hn' : n ∈ p'.parsedFiles := h.parsedFiles_eq ▸ hn
  rw [imports_resolveImports hn, imports_resolveImports hn']
  exact filterMap_sublist fun specifier _ => h.imported?_path_cases _

/-- It gets none exactly if nothing was hidden from it. -/
theorem imports_eq_iff (h : Lacks p p' gone) {n : Node} (hn : n ∈ p.parsedFiles) :
    (p.resolveImports n).imports = (p'.resolveImports n).imports ↔
      ∀ specifier ∈ relativeSpecifiers n,
        ¬ p.HidesAt gone (Specifier.target specifier n.path.shown) := by
  have hn' : n ∈ p'.parsedFiles := h.parsedFiles_eq ▸ hn
  rw [imports_resolveImports hn, imports_resolveImports hn',
    filterMap_eq_iff fun specifier _ => h.imported?_path_cases _]
  refine forall₂_congr fun specifier _ => ?_
  rcases h.imported?_cases (Specifier.target specifier n.path.shown) with
    ⟨hsame, hnot⟩ | ⟨hnone, hiff⟩
  · simp [hsame, hnot]
  · rw [hnone, hiff, Option.map_none, eq_comm, Option.map_eq_none_iff]
    simp

end Lacks

/-! ## The adjacency -/

/-- Where the paths are different texts, the adjacency has one entry for every file that was
read. -/
theorem entries_adjacency {p : Project} (h : p.WellPlaced) :
    p.importGraph.adjacency.entries =
      p.parsedFiles.map fun n => (n.path, (p.resolveImports n).imports) := by
  have hentries : (p.importGraph.parsedFiles.map fun n =>
      (Label.firstOf (p.importGraph.parsedFiles.map Node.path) n.path, n.imports)) =
        p.parsedFiles.map fun n => (n.path, (p.resolveImports n).imports) := by
    rw [parsedFiles_importGraph, List.map_map]
    refine List.map_congr_left fun n hn => ?_
    obtain ⟨path, hpath⟩ := Label.text_of_isText (h.isText n (mem_parsedFiles.1 hn).1)
    simp only [Function.comp, path_resolveImports, hpath, Label.firstOf_text]
  unfold adjacency
  dsimp only
  rw [hentries]
  refine Register.entries_ofList ?_
  rw [List.map_map]
  exact (List.filter_sublist.map Node.path).nodup h.nodup

theorem keys_adjacency {p : Project} (h : p.WellPlaced) :
    p.importGraph.adjacency.keys = p.parsedFiles.map Node.path := by
  unfold Register.keys
  rw [entries_adjacency h, List.map_map]
  rfl

namespace Lacks

variable {p p' : Project} {gone : Label}

/-- The adjacency is the same exactly if the file hides nothing. -/
theorem adjacency_eq_iff (h : Lacks p p' gone) :
    p'.importGraph.adjacency = p.importGraph.adjacency ↔ ¬ p.Hides gone := by
  have hentries : p'.importGraph.adjacency = p.importGraph.adjacency ↔
      p'.importGraph.adjacency.entries = p.importGraph.adjacency.entries := by
    constructor
    · intro heq
      rw [heq]
    · intro heq
      exact congrArg Register.mk heq
  rw [hentries, entries_adjacency h.placed, entries_adjacency h.placed', h.parsedFiles_eq,
    List.map_inj_left]
  constructor
  · rintro heq ⟨f, hf, specifier, hspecifier, hhides⟩
    have himports := (Prod.mk.inj (heq f hf)).2
    exact (h.imports_eq_iff hf).1 himports.symm specifier hspecifier hhides
  · intro hnot f hf
    have himports := (h.imports_eq_iff hf).2 fun specifier hspecifier hhides =>
      hnot ⟨f, hf, specifier, hspecifier, hhides⟩
    rw [himports]

theorem adjacency_sublist (h : Lacks p p' gone) :
    List.Forall₂ (fun e e' => e'.1 = e.1 ∧ e.2.Sublist e'.2) p.importGraph.adjacency.entries
      p'.importGraph.adjacency.entries := by
  rw [entries_adjacency h.placed, entries_adjacency h.placed', h.parsedFiles_eq,
    List.forall₂_map_left_iff, List.forall₂_map_right_iff, List.forall₂_same]
  intro f hf
  exact ⟨rfl, h.imports_sublist hf⟩

/-- The file itself is neither a key of the adjacency nor does an import lead to it. -/
theorem notMem_adjacency (h : Lacks p p' gone) :
    gone ∉ p.importGraph.adjacency.keys ∧
      ∀ entry ∈ p.importGraph.adjacency.entries, ∀ path ∈ entry.2, Json.text path ≠ gone := by
  refine ⟨?_, ?_⟩
  · rw [keys_adjacency h.placed]
    intro hmem
    obtain ⟨f, hf, hpath⟩ := List.mem_map.1 hmem
    obtain ⟨hfile, hsource⟩ := mem_parsedFiles.1 hf
    have hunread := h.unread f hfile hpath
    simp [Node.isImportable, hsource] at hunread
  · intro entry hentry path hpath hgone
    obtain ⟨f, hf, himports⟩ := exists_of_mem_adjacency hentry
    obtain ⟨n, hn, hnpath, himportable⟩ := exists_imported hf (himports ▸ hpath)
    unfold importGraph at hn
    rw [files_map p.isFile_resolveImports] at hn
    obtain ⟨m, hm, rfl⟩ := List.mem_map.1 hn
    rw [path_resolveImports] at hnpath
    have hunread := h.unread m hm (hnpath.trans hgone)
    rw [Node.congr_bare (f := Node.isImportable) (fun _ => rfl) (p.resolveImports_bare m),
      hunread] at himportable
    cases himportable

end Lacks

/-! ## Dependencies -/

/-- Dependencies do not depend on imports. -/
theorem ofFiles_map {g : Node → Node} (hg : ∀ n, (g n).bare = n.bare) (files : List Node) :
    Dependency.ofFiles (files.map g) = Dependency.ofFiles files := by
  have hdeclarations : ∀ n, (g n).declarations = n.declarations :=
    fun n => Node.congr_bare (fun _ => rfl) (hg n)
  have hcalls : ∀ n, (g n).topLevelCalls = n.topLevelCalls :=
    fun n => Node.congr_bare (fun _ => rfl) (hg n)
  have hpath : ∀ n, (g n).path = n.path := fun n => Node.congr_bare (fun _ => rfl) (hg n)
  simp only [Dependency.ofFiles, functionIndex, List.flatMap_map, hdeclarations, hcalls, hpath]

theorem among_importGraph (p : Project) :
    Dependency.among [p.importGraph] = Dependency.ofFiles p.parsedFiles := by
  unfold Dependency.among parsedFilesOf
  rw [List.flatMap_singleton, parsedFiles_importGraph, ofFiles_map p.resolveImports_bare]

/-! ## The graph hides what the project hides -/

theorem hidesAt_importGraph (p : Project) (gone : Label) (path : String) :
    p.importGraph.HidesAt gone path ↔ p.HidesAt gone path := by
  have hmatch : (fun n => Node.matchesPath n path) ∘ p.resolveImports =
      fun n => n.matchesPath path := by
    funext n
    have hbare := p.resolveImports_bare n
    exact Node.congr_bare (f := fun n => n.matchesPath path) (fun _ => rfl) hbare
  have hkept : (fun n => decide (n.path ≠ gone)) ∘ p.resolveImports =
      fun n => decide (n.path ≠ gone) := by
    funext n
    simp [path_resolveImports]
  have himportable : ∀ n, (p.resolveImports n).isImportable = n.isImportable :=
    fun n => Node.congr_bare (fun _ => rfl) (p.resolveImports_bare n)
  have hfiles : p.importGraph.files = p.files.map p.resolveImports :=
    files_map p.isFile_resolveImports p
  unfold HidesAt
  rw [hfiles, List.filter_map, hkept, List.find?_map, List.find?_map, hmatch]
  constructor
  · rintro ⟨_, _, hfirst, hpath, hsecond, hok⟩
    obtain ⟨g, hg, rfl⟩ := Option.map_eq_some_iff.1 hfirst
    obtain ⟨other, hother, rfl⟩ := Option.map_eq_some_iff.1 hsecond
    rw [path_resolveImports] at hpath
    rw [himportable] at hok
    exact ⟨g, other, hg, hpath, hother, hok⟩
  · rintro ⟨g, other, hg, hpath, hother, hok⟩
    rw [hg, hother, Option.map_some, Option.map_some]
    refine ⟨p.resolveImports g, p.resolveImports other, rfl, ?_, rfl, ?_⟩
    · rw [path_resolveImports]
      exact hpath
    · rw [himportable]
      exact hok

theorem hides_importGraph (p : Project) (gone : Label) :
    p.importGraph.Hides gone ↔ p.Hides gone := by
  have hspecifiers : ∀ n, relativeSpecifiers (p.resolveImports n) = relativeSpecifiers n :=
    fun n => Node.congr_bare (fun _ => rfl) (p.resolveImports_bare n)
  unfold Hides
  simp only [parsedFiles_importGraph, List.mem_map, exists_exists_and_eq_and, hspecifiers,
    path_resolveImports, hidesAt_importGraph]

/-! ## Labels -/

/-- A label that stops the imports from being followed is the path of a file. -/
theorem exists_file_of_importFault? {p : Project} {fault : LabelFault}
    (h : p.importFault? = some fault) :
    ∃ f ∈ p.files, f.path = fault.label ∧ fault.label.isText = false := by
  obtain ⟨n, hn, hfollow⟩ := List.exists_of_findSome?_eq_some h
  obtain ⟨specifier, -, hfault⟩ := List.exists_of_findSome?_eq_some hfollow
  by_cases hpath : n.path.isText = true
  · rw [if_pos hpath] at hfault
    exact exists_file_of_searchFault? hfault
  · rw [if_neg hpath] at hfault
    cases hfault
    exact ⟨n, (mem_parsedFiles.1 hn).1, rfl, Bool.eq_false_iff.2 hpath⟩

/-- Where the paths are texts, no label stops the imports from being followed. -/
theorem importFault?_eq_none_of_isText {p : Project} (h : ∀ f ∈ p.files, f.path.isText = true) :
    p.importFault? = none := by
  cases hfault : p.importFault? with
  | none => rfl
  | some fault =>
    obtain ⟨f, hf, hlabel, hodd⟩ := exists_file_of_importFault? hfault
    rw [← hlabel, h f hf] at hodd
    cases hodd

theorem importFault?_eq_none {p : Project} (h : p.WellPlaced) : p.importFault? = none :=
  importFault?_eq_none_of_isText h.isText

end Project

end CodeAtlas
