-- The nodes and files of a project, read off its parts; the files that a path finds; and projects
-- without some of their files.
import CodeAtlas.Project.Node
import Mathlib.Data.List.Basic
import Mathlib.Data.List.Nodup

namespace CodeAtlas

namespace Tree

variable {α β γ : Type}

mutual

theorem map_map (f : α → β) (g : β → γ) : (t : Tree α) → (t.map f).map g = t.map fun a => g (f a)
  | node a ts => by simp only [map, mapAll_mapAll f g ts]

theorem mapAll_mapAll (f : α → β) (g : β → γ) : (ts : List (Tree α)) →
    mapAll g (mapAll f ts) = mapAll (fun a => g (f a)) ts
  | [] => rfl
  | t :: ts => by simp only [mapAll, map_map f g t, mapAll_mapAll f g ts]

end

end Tree

namespace Project

/-! ## Listings -/

theorem nodes_node (n : Node) (ts : List Project) :
    nodes (.node n ts) = n :: ts.flatMap nodes := by
  unfold nodes
  rw [Tree.preorder, Tree.preorderAll_eq_flatMap, List.map_cons, List.map_flatMap]
  rfl

theorem files_node (n : Node) (ts : List Project) :
    files (.node n ts) = (if n.isFile then [n] else []) ++ ts.flatMap files := by
  unfold files
  rw [nodes_node, List.filter_cons, List.filter_flatMap]
  split <;> rfl

theorem files_folder {n : Node} (h : n.kind = .folder) (ts : List Project) :
    files (.node n ts) = ts.flatMap files := by
  rw [files_node]
  simp [Node.isFile, h]

theorem mem_files {p : Project} {n : Node} : n ∈ p.files ↔ n ∈ p.nodes ∧ n.isFile = true :=
  List.mem_filter

theorem mem_parsedFiles {p : Project} {n : Node} :
    n ∈ p.parsedFiles ↔ n ∈ p.files ∧ n.source.isSome = true := by
  unfold parsedFiles
  rw [List.mem_filter]
  refine and_congr_right fun h => ?_
  simp [Node.isParsed, (mem_files.1 h).2]

/-- The sources of a project are those of its parsed files. -/
theorem filterMap_source_parsedFiles (p : Project) :
    p.parsedFiles.filterMap Node.source = p.files.filterMap Node.source := by
  unfold parsedFiles
  rw [List.filterMap_filter]
  refine List.filterMap_congr fun n hn => ?_
  cases hsource : n.source <;> simp [Node.isParsed, (mem_files.1 hn).2, hsource]

/-! ## Changes of labels -/

theorem nodes_map (f : Node → Node) (p : Project) : nodes (p.map f) = p.nodes.map f := by
  unfold nodes
  rw [Tree.preorder_map, List.map_map, List.map_map]
  exact List.map_congr_left fun t _ => Tree.label_map f t

theorem files_map {f : Node → Node} (hf : ∀ n, (f n).isFile = n.isFile) (p : Project) :
    files (p.map f) = p.files.map f := by
  unfold files
  rw [nodes_map, List.filter_map]
  congr 2
  funext n
  exact hf n

theorem parsedFiles_map {f : Node → Node} (hf : ∀ n, (f n).isFile = n.isFile)
    (hs : ∀ n, (f n).source = n.source) (p : Project) :
    parsedFiles (p.map f) = p.parsedFiles.map f := by
  unfold parsedFiles
  rw [files_map hf, List.filter_map]
  congr 2
  funext n
  simp [Node.isParsed, hf n, hs n]

end Project

end CodeAtlas

/-! ## Finding files -/

namespace CodeAtlas.Project

/-! ## The files that a search comes across -/

mutual

/-- The files that a search comes across, in reading order. It does not look below files. -/
def openFiles : Project → List Node
  | .node n ts => if n.isFile then [n] else openFilesAll ts

/-- `openFiles` of several projects, one after the other. -/
def openFilesAll : List Project → List Node
  | [] => []
  | t :: ts => openFiles t ++ openFilesAll ts

end

mutual

/-- The search finds the first file that matches. -/
theorem find?_eq_find?_openFiles (path : String) : (p : Project) →
    find? path p = p.openFiles.find? fun n => n.matchesPath path
  | .node n ts => by
    unfold find? openFiles
    cases hkind : n.kind with
    | file =>
      have hfile : n.isFile = true := by simp [Node.isFile, hkind]
      have hfolder : n.isFolder = false := by simp [Node.isFolder, hkind]
      cases hm : n.matchesPath path <;> simp [hfile, hfolder, hm]
    | folder =>
      have hfile : n.isFile = false := by simp [Node.isFile, hkind]
      have hfolder : n.isFolder = true := by simp [Node.isFolder, hkind]
      simp [hfile, hfolder, findAmong?_eq_find?_openFilesAll path ts]

theorem findAmong?_eq_find?_openFilesAll (path : String) : (ts : List Project) →
    findAmong? path ts = (openFilesAll ts).find? fun n => n.matchesPath path
  | [] => rfl
  | t :: ts => by
    unfold findAmong? openFilesAll
    rw [List.find?_append, find?_eq_find?_openFiles path t,
      findAmong?_eq_find?_openFilesAll path ts]

end

mutual

theorem openFiles_sublist_files : (p : Project) → p.openFiles.Sublist p.files
  | .node n ts => by
    rw [files_node]
    unfold openFiles
    split
    · exact List.sublist_append_left _ _
    · exact openFilesAll_sublist_files ts

theorem openFilesAll_sublist_files : (ts : List Project) →
    (openFilesAll ts).Sublist (ts.flatMap files)
  | [] => List.Sublist.slnil
  | t :: ts => by
    unfold openFilesAll
    exact (openFiles_sublist_files t).append (openFilesAll_sublist_files ts)

end

mutual

theorem openFiles_map {f : Node → Node} (hf : ∀ n, (f n).isFile = n.isFile) : (p : Project) →
    openFiles (p.map f) = p.openFiles.map f
  | .node n ts => by
    unfold Tree.map openFiles
    rw [hf n, openFilesAll_map hf ts]
    split <;> rfl

theorem openFilesAll_map {f : Node → Node} (hf : ∀ n, (f n).isFile = n.isFile) :
    (ts : List Project) → openFilesAll (Tree.mapAll f ts) = (openFilesAll ts).map f
  | [] => rfl
  | t :: ts => by
    unfold Tree.mapAll openFilesAll
    rw [List.map_append, openFiles_map hf t, openFilesAll_map hf ts]

end

/-- A label that stops a search is the path of a file. -/
theorem exists_file_of_searchFault? {p : Project} {path : String} {fault : LabelFault}
    (h : p.searchFault? path = some fault) :
    ∃ f ∈ p.files, f.path = fault.label ∧ fault.label.isText = false := by
  unfold searchFault? at h
  split at h
  · rename_i n hfound
    by_cases hpath : n.path.isText = true
    · rw [if_pos hpath] at h
      cases h
    · rw [if_neg hpath] at h
      cases h
      exact ⟨n, List.mem_of_find?_eq_some hfound, rfl, Bool.eq_false_iff.2 hpath⟩
  · cases h

/-- Where the paths are texts, no label stops a search. -/
theorem searchFault?_eq_none {p : Project} (h : ∀ f ∈ p.files, f.path.isText = true)
    (path : String) : p.searchFault? path = none := by
  cases hfault : p.searchFault? path with
  | none => rfl
  | some fault =>
    obtain ⟨f, hf, hlabel, hodd⟩ := exists_file_of_searchFault? hfault
    rw [← hlabel, h f hf] at hodd
    cases hodd

/-! ## Projects in which only folders hold something -/

/-- Nothing lies below a file. -/
def FilesAreLeaves (p : Project) : Prop :=
  ∀ t ∈ p.preorder, Node.isFile (Tree.label t) → Tree.children t = []

theorem FilesAreLeaves.of_mem {p t : Project} {n : Node} {ts : List Project}
    (h : FilesAreLeaves p) (hp : p = .node n ts) (ht : t ∈ ts) : FilesAreLeaves t := by
  subst hp
  intro u hu
  apply h u
  rw [Tree.preorder, Tree.preorderAll_eq_flatMap]
  exact List.mem_cons_of_mem _ (List.mem_flatMap.2 ⟨t, ht, hu⟩)

mutual

theorem openFiles_eq_files : (p : Project) → p.FilesAreLeaves → p.openFiles = p.files
  | .node n ts, h => by
    rw [files_node]
    unfold openFiles
    split
    · rename_i hfile
      have hts : ts = [] := h (.node n ts) (by simp [Tree.preorder]) hfile
      simp [hts]
    · exact openFilesAll_eq_files ts fun t ht => h.of_mem rfl ht

theorem openFilesAll_eq_files : (ts : List Project) → (∀ t ∈ ts, FilesAreLeaves t) →
    openFilesAll ts = ts.flatMap files
  | [], _ => rfl
  | t :: ts, h => by
    unfold openFilesAll
    rw [List.flatMap_cons, openFiles_eq_files t (h t (by simp)),
      openFilesAll_eq_files ts fun u hu => h u (by simp [hu])]

end

/-- Nothing lies below a file, and the paths of the files are different texts. -/
structure WellPlaced (p : Project) : Prop where
  leaves : p.FilesAreLeaves
  nodup : (p.files.map Node.path).Nodup
  isText : ∀ f ∈ p.files, f.path.isText = true

theorem WellPlaced.eq_of_path {p : Project} (h : p.WellPlaced) {f g : Node} (hf : f ∈ p.files)
    (hg : g ∈ p.files) (heq : f.path = g.path) : f = g :=
  List.inj_on_of_nodup_map h.nodup hf hg heq

end CodeAtlas.Project

/-! ## Leaving out files -/

namespace CodeAtlas

namespace Tree

variable {α : Type}

mutual

/-- The tree without the subtrees below the top whose label is not kept. -/
def prune (keep : α → Bool) : Tree α → Tree α
  | node a ts => node a (pruneAll keep ts)

/-- The trees whose label is kept, each of them pruned. -/
def pruneAll (keep : α → Bool) : List (Tree α) → List (Tree α)
  | [] => []
  | t :: ts => if keep t.label then t.prune keep :: pruneAll keep ts else pruneAll keep ts

end

theorem pruneAll_append (keep : α → Bool) (ts us : List (Tree α)) :
    pruneAll keep (ts ++ us) = pruneAll keep ts ++ pruneAll keep us := by
  induction ts with
  | nil => rfl
  | cons t ts ih =>
    rw [List.cons_append, pruneAll, pruneAll]
    split
    · rw [ih, List.cons_append]
    · exact ih

theorem pruneAll_leaf (keep : α → Bool) (a : α) :
    pruneAll keep [.node a []] = if keep a then [.node a []] else [] :=
  rfl

end Tree

def Node.isFileAt (path : Label) (n : Node) : Bool := n.isFile && n.path = path

namespace Project

mutual

theorem files_prune {keep : Node → Bool} (hkeep : ∀ n, keep n = false → n.isFile = true) :
    (p : Project) → p.FilesAreLeaves → keep p.label = true →
      files (p.prune keep) = p.files.filter keep
  | .node n ts, h, hroot => by
    have hn : keep n = true := hroot
    rw [Tree.prune, files_node, files_node, List.filter_append,
      files_pruneAll hkeep ts fun t ht => h.of_mem rfl ht]
    split <;> simp [hn]

theorem files_pruneAll {keep : Node → Bool} (hkeep : ∀ n, keep n = false → n.isFile = true) :
    (ts : List Project) → (∀ t ∈ ts, FilesAreLeaves t) →
      (Tree.pruneAll keep ts).flatMap files = (ts.flatMap files).filter keep
  | [], _ => rfl
  | .node n us :: ts, h => by
    have hts := files_pruneAll hkeep ts fun u hu => h u (by simp [hu])
    have hleaf : FilesAreLeaves (.node n us) := h _ (by simp)
    rw [Tree.pruneAll, List.flatMap_cons, List.filter_append]
    by_cases hn : keep (Tree.label (.node n us)) = true
    · rw [if_pos hn, List.flatMap_cons, hts, files_prune hkeep (.node n us) hleaf hn]
    · -- what is dropped is a file, and there is nothing below it
      have hdropped : keep n = false := Bool.eq_false_iff.2 hn
      have hfile := hkeep n hdropped
      have hus : us = [] := hleaf (.node n us) (by simp [Tree.preorder]) hfile
      rw [if_neg hn, hts, hus, files_node]
      simp [hfile, hdropped]

end

end Project

end CodeAtlas
