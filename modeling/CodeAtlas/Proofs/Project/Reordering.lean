-- Projects whose folders list their items in another order. Where no two files have the same path
-- but for the extension, the search finds the same file in every order, and so the adjacency says
-- the same.
import CodeAtlas.Proofs.Project.Hiding
import CodeAtlas.Proofs.Project.ImportedCalls
import Mathlib.Data.List.Perm.Basic

namespace CodeAtlas

namespace Tree

variable {α : Type}

/-- The second tree is the first one with the children of some of its nodes in another order. -/
inductive Reordered : Tree α → Tree α → Prop
  | children {a : α} {ts us : List (Tree α)} (h : ts.Perm us) : Reordered (.node a ts) (.node a us)
  | inside {a : α} {t u : Tree α} (before after : List (Tree α)) (h : Reordered t u) :
      Reordered (.node a (before ++ t :: after)) (.node a (before ++ u :: after))
  | trans {t u v : Tree α} (h : Reordered t u) (h' : Reordered u v) : Reordered t v

/-- All labels, each before those below it, with the number of trees directly below each. -/
def outline (t : Tree α) : List (α × Nat) := t.preorder.map fun u => (u.label, u.children.length)

theorem outline_node (a : α) (ts : List (Tree α)) :
    outline (.node a ts) = (a, ts.length) :: ts.flatMap outline := by
  unfold outline
  rw [preorder, preorderAll_eq_flatMap, List.map_cons, List.map_flatMap]
  rfl

/-- Another order of the children changes nothing but the order of the outline. -/
theorem Reordered.outline_perm {t u : Tree α} (h : Reordered t u) : t.outline.Perm u.outline := by
  induction h with
  | @children a ts us h =>
    rw [outline_node, outline_node, h.length_eq]
    exact (h.flatMap_right outline).cons _
  | @inside a t u before after _ ih =>
    simp only [outline_node, List.length_append, List.length_cons, List.flatMap_append,
      List.flatMap_cons]
    exact ((ih.append_right _).append_left _).cons _
  | trans _ _ ih ih' => exact ih.trans ih'

end Tree

/-- A search that only one thing can end finds it in every order. -/
theorem find?_eq_of_perm {α : Type} {f : α → Bool} {as bs : List α} (h : as.Perm bs)
    (hone : ∀ a ∈ as, ∀ b ∈ as, f a = true → f b = true → a = b) : as.find? f = bs.find? f := by
  cases ha : as.find? f with
  | none =>
    symm
    rw [List.find?_eq_none] at ha ⊢
    intro b hb
    exact ha b (h.mem_iff.2 hb)
  | some a =>
    have hmem := List.mem_of_find?_eq_some ha
    have hfound := List.find?_some ha
    cases hb : bs.find? f with
    | none => exact absurd hfound (List.find?_eq_none.1 hb a (h.mem_iff.1 hmem))
    | some b =>
      have hmem' := h.mem_iff.2 (List.mem_of_find?_eq_some hb)
      rw [hone a hmem b hmem' hfound (List.find?_some hb)]

namespace Project

variable {p q : Project}

/-! ## What another order keeps -/

theorem nodes_perm (h : Tree.Reordered p q) : p.nodes.Perm q.nodes := by
  have hnodes : ∀ r : Project, r.nodes = (Tree.outline r).map (·.1) := by
    intro r
    simp [nodes, Tree.outline]
  rw [hnodes, hnodes]
  exact h.outline_perm.map _

theorem files_perm (h : Tree.Reordered p q) : p.files.Perm q.files := (nodes_perm h).filter _

theorem parsedFiles_perm (h : Tree.Reordered p q) : p.parsedFiles.Perm q.parsedFiles :=
  (files_perm h).filter _

theorem filesAreLeaves_iff (p : Project) :
    p.FilesAreLeaves ↔ ∀ x ∈ Tree.outline p, x.1.isFile = true → x.2 = 0 := by
  simp [FilesAreLeaves, Tree.outline]

theorem FilesAreLeaves.reordered (hp : p.FilesAreLeaves) (h : Tree.Reordered p q) :
    q.FilesAreLeaves := by
  rw [filesAreLeaves_iff] at hp ⊢
  intro x hx
  exact hp x (h.outline_perm.mem_iff.2 hx)

/-! ## Projects without doubts -/

/-- Nothing lies below a file, and the paths of the files are texts of which no two are the same
without the extensions of source files. -/
structure Unambiguous (p : Project) : Prop where
  leaves : p.FilesAreLeaves
  isText : ∀ f ∈ p.files, f.path.isText = true
  nodup : (p.files.map fun f => Extension.strip f.path.shown).Nodup

theorem Unambiguous.wellPlaced (h : p.Unambiguous) : p.WellPlaced := by
  refine ⟨h.leaves, ?_, h.isText⟩
  have hstripped : p.files.map (fun f => Extension.strip f.path.shown) =
      (p.files.map Node.path).map fun path => Extension.strip path.shown := by
    rw [List.map_map]
    rfl
  have hnodup := h.nodup
  rw [hstripped] at hnodup
  exact hnodup.of_map

theorem Unambiguous.reordered (hp : p.Unambiguous) (h : Tree.Reordered p q) : q.Unambiguous where
  leaves := hp.leaves.reordered h
  isText f hf := hp.isText f ((files_perm h).mem_iff.2 hf)
  nodup := ((files_perm h).map _).nodup_iff.1 hp.nodup

theorem strip_of_matchesPath {f : Node} {path : String} (h : f.matchesPath path = true) :
    Extension.strip f.path.shown = Extension.strip path := by
  have htext := Node.path_of_matchesPath h
  unfold Node.matchesPath at h
  rw [htext] at h
  simpa [Json.text?] using h

/-- Only one file matches a path. -/
theorem Unambiguous.eq_of_matchesPath (hp : p.Unambiguous) {f g : Node} (hf : f ∈ p.files)
    (hg : g ∈ p.files) {path : String} (hfpath : f.matchesPath path = true)
    (hgpath : g.matchesPath path = true) : f = g := by
  refine List.inj_on_of_nodup_map hp.nodup hf hg ?_
  rw [strip_of_matchesPath hfpath, strip_of_matchesPath hgpath]

/-! ## The search and the imports -/

theorem Unambiguous.find?_reordered (hp : p.Unambiguous) (h : Tree.Reordered p q) (path : String) :
    q.find? path = p.find? path := by
  have hleaves := (hp.reordered h).leaves
  -- where files are leaves, the search goes through all files in order
  rw [find?_eq_find?_openFiles, find?_eq_find?_openFiles, openFiles_eq_files q hleaves,
    openFiles_eq_files p hp.leaves]
  symm
  apply find?_eq_of_perm (files_perm h)
  intro f hf g hg hfpath hgpath
  exact hp.eq_of_matchesPath hf hg hfpath hgpath

theorem Unambiguous.resolveImports_reordered (hp : p.Unambiguous) (h : Tree.Reordered p q)
    (n : Node) : q.resolveImports n = p.resolveImports n := by
  have hfollow : q.follow = p.follow := by
    funext path specifier
    simp only [follow, hp.find?_reordered h]
  simp only [resolveImports, followAll, hfollow]

theorem Unambiguous.entries_perm (hp : p.Unambiguous) (h : Tree.Reordered p q) :
    q.importGraph.adjacency.entries.Perm p.importGraph.adjacency.entries := by
  rw [entries_adjacency hp.wellPlaced, entries_adjacency (hp.reordered h).wellPlaced]
  simp only [hp.resolveImports_reordered h]
  exact (parsedFiles_perm h).symm.map _

theorem adjacencyFault?_eq_none (h : ∀ f ∈ p.files, f.path.isText = true) :
    p.importGraph.adjacencyFault? = none := by
  unfold adjacencyFault?
  rw [Option.map_eq_none_iff, List.find?_eq_none, parsedFiles_importGraph, List.forall_mem_map]
  intro f hf
  obtain ⟨path, hpath⟩ := Label.text_of_isText (h f (mem_parsedFiles.1 hf).1)
  simp [path_resolveImports, hpath, Json.isSimple]

/-- The adjacency of a project does not depend on the order in which its folders list what is in
them, if no two files have the same path without the extensions of source files: whatever the
order, all imports can be followed and listed, and every file that was read has the same ones. -/
theorem adjacency_ignores_order (p q : Project) (hp : p.Unambiguous) (h : Tree.Reordered p q) :
    q.importFault? = none ∧ q.importGraph.adjacencyFault? = none ∧
      q.importGraph.adjacency.entries.Perm p.importGraph.adjacency.entries ∧
      ∀ path, q.importGraph.adjacency.get? path = p.importGraph.adjacency.get? path := by
  have hq := hp.reordered h
  have hentries := hp.entries_perm h
  have hnodup : q.importGraph.adjacency.keys.Nodup := by
    rw [keys_adjacency hq.wellPlaced]
    exact (List.filter_sublist.map Node.path).nodup hq.wellPlaced.nodup
  refine ⟨importFault?_eq_none hq.wellPlaced, adjacencyFault?_eq_none hq.isText, hentries, ?_⟩
  intro path
  exact Register.get?_eq_of_perm hentries hnodup path

/-! ## A project in two orders -/

def topFolder : Node := ⟨"0", .text "", .text "", .folder, none, none, []⟩

def sourceFolder : Node := ⟨"1", .text "src", .text "src", .folder, none, none, []⟩

def pageFile : Node := ⟨"4", .text "m.md", .text "m.md", .file, none, none, []⟩

def orderlyProject : Project :=
  .node topFolder
    [.node sourceFolder [.node importingFile [], .node importedFile []], .node pageFile []]

/-- The same project with what is in the top folder and in the one below it turned around. -/
def turnedProject : Project :=
  .node topFolder
    [.node pageFile [], .node sourceFolder [.node importedFile [], .node importingFile []]]

theorem reordered_turnedProject : Tree.Reordered orderlyProject turnedProject := by
  refine .trans (.children (List.Perm.swap _ _ _)) ?_
  exact .inside [.node pageFile []] [] (.children (List.Perm.swap _ _ _))

theorem unambiguous_orderlyProject : orderlyProject.Unambiguous := by
  refine ⟨?_, ?_, ?_⟩
  · rw [filesAreLeaves_iff]
    decide +kernel
  · decide +kernel
  · decide +kernel

theorem adjacency_ignores_order_turned :
    orderlyProject.Unambiguous ∧ Tree.Reordered orderlyProject turnedProject ∧
      turnedProject.importFault? = none ∧ turnedProject.importGraph.adjacencyFault? = none ∧
      turnedProject.importGraph.adjacency.entries.Perm
        [(.text "src/a.ts", ["src/m.tsx"]), (.text "src/m.tsx", ["src/m.tsx"])] ∧
      ∀ path, turnedProject.importGraph.adjacency.get? path =
        orderlyProject.importGraph.adjacency.get? path := by
  obtain ⟨hfault, hfault', hentries, hget⟩ := adjacency_ignores_order orderlyProject turnedProject
    unambiguous_orderlyProject reordered_turnedProject
  have horderly : orderlyProject.importGraph.adjacency.entries =
      [(.text "src/a.ts", ["src/m.tsx"]), (.text "src/m.tsx", ["src/m.tsx"])] := by
    decide +kernel
  rw [horderly] at hentries
  exact ⟨unambiguous_orderlyProject, reordered_turnedProject, hfault, hfault', hentries, hget⟩

end Project

end CodeAtlas
