-- The search for a path finds the first file that has it but for the extension, when all files are
-- read one project after the other. Where only folders hold something, no file is passed over.
import CodeAtlas.Proofs.Project.Extension
import CodeAtlas.Proofs.Project.ImportGraph

namespace CodeAtlas

/-- The path of the node is the same as the other one when both are without the extension of a
source file. -/
def Node.SamePath (n : Node) (target : String) : Prop :=
  ∃ path, n.path = .text path ∧ Extension.strip path = Extension.strip target

theorem Node.matchesPath_iff_samePath (n : Node) (target : String) :
    n.matchesPath target = true ↔ n.SamePath target := by
  constructor
  · intro hmatches
    have hpath := Node.path_of_matchesPath hmatches
    exact ⟨_, hpath, (Project.matchesPath_iff hpath target).1 hmatches⟩
  · rintro ⟨path, hpath, hstrip⟩
    exact (Project.matchesPath_iff hpath target).2 hstrip

namespace Project

/-- What is found is the first of the files that has the path, and nothing is found only if none of
them has it. -/
structure FindsFirst (target : String) (files : List Node) (found : Option Node) : Prop where
  some_iff : ∀ n, found = some n ↔ ∃ before after, files = before ++ n :: after ∧
    n.SamePath target ∧ ∀ m ∈ before, ¬ m.SamePath target
  none_iff : found = none ↔ ∀ n ∈ files, ¬ n.SamePath target

theorem findsFirst_find? (target : String) (files : List Node) :
    FindsFirst target files (files.find? fun n => n.matchesPath target) where
  some_iff n := by
    rw [List.find?_eq_some_iff_append]
    simp only [Bool.not_eq_true', Bool.eq_false_iff, ne_eq, Node.matchesPath_iff_samePath]
    constructor
    · rintro ⟨hsame, before, after, hfiles, hbefore⟩
      exact ⟨before, after, hfiles, hsame, hbefore⟩
    · rintro ⟨before, after, hfiles, hsame, hbefore⟩
      exact ⟨hsame, before, after, hfiles, hbefore⟩
  none_iff := by
    rw [List.find?_eq_none]
    simp only [Node.matchesPath_iff_samePath]

theorem findAmong?_singleton (target : String) (p : Project) :
    findAmong? target [p] = p.find? target := by
  unfold findAmong? findAmong?
  rw [Option.or_none]

theorem findsFirst_findAmong? (target : String) (roots : List Project)
    (hleaves : ∀ p ∈ roots, FilesAreLeaves p) :
    FindsFirst target (roots.flatMap files) (findAmong? target roots) := by
  rw [findAmong?_eq_find?_openFilesAll, openFilesAll_eq_files roots hleaves]
  exact findsFirst_find? target (roots.flatMap files)

theorem isFile_of_findAmong? {target : String} {roots : List Project} {n : Node}
    (h : findAmong? target roots = some n) : n.isFile = true := by
  rw [findAmong?_eq_find?_openFilesAll] at h
  have hopen := List.mem_of_find?_eq_some h
  obtain ⟨p, -, hn⟩ := List.mem_flatMap.1 ((openFilesAll_sublist_files roots).subset hopen)
  exact (mem_files.1 hn).2

/-- In projects in which only folders hold something, the search for a path finds the first file
that has it in reading order, one project after the other, and nothing only if there is no such
file. A folder is never found, and no path that is a text stops the search. -/
theorem search_finds_first_file (target : String) (p : Project) (roots : List Project) :
    (p.FilesAreLeaves → FindsFirst target p.files (p.find? target)) ∧
    ((∀ q ∈ roots, FilesAreLeaves q) →
      FindsFirst target (roots.flatMap files) (findAmong? target roots)) ∧
    (∀ n, p.find? target = some n ∨ findAmong? target roots = some n → n.kind ≠ .folder) ∧
    ((∀ f ∈ p.files, f.path.isText = true) → p.searchFault? target = none) := by
  refine ⟨?_, findsFirst_findAmong? target roots, ?_,
    fun htexts => searchFault?_eq_none htexts target⟩
  · intro hleaves
    have hone := findsFirst_findAmong? target [p] (by simpa using hleaves)
    rwa [findAmong?_singleton, List.flatMap_singleton] at hone
  · intro n hfound hfolder
    rw [← findAmong?_singleton] at hfound
    have hfile : n.isFile = true := hfound.elim isFile_of_findAmong? isFile_of_findAmong?
    simp [Node.isFile, hfolder] at hfile

/-- Two parts of a library. In the first one a folder has the path that is looked for below, and the
files that have it but for the extension are in the second one. -/
def scatteredProjects : List Project :=
  [folderAt "lib"
      [folderAt "lib/empty" [], folderAt "lib/a" [.node (unreadFile "lib/a/b.ts") []],
        .node (unreadFile "lib/a.md") []],
    folderAt "lib" [.node (unreadFile "lib/a.tsx") [], .node (unreadFile "lib/a.ts") []]]

theorem search_finds_first_file_scattered :
    (scatteredProjects.flatMap files).map Node.path =
        ["lib/a/b.ts", "lib/a.md", "lib/a.tsx", "lib/a.ts"].map .text ∧
      (folderAt "" scatteredProjects).find? "lib/a" = some (unreadFile "lib/a.tsx") ∧
      FindsFirst "lib/a" (folderAt "" scatteredProjects).files (some (unreadFile "lib/a.tsx")) ∧
      FindsFirst "lib/a" (scatteredProjects.flatMap files) (some (unreadFile "lib/a.tsx")) ∧
      (folderAt "" scatteredProjects).searchFault? "lib/a" = none := by
  have hleaf : (folderAt "" scatteredProjects).FilesAreLeaves := by
    unfold FilesAreLeaves
    decide +kernel
  have hleaves : ∀ q ∈ scatteredProjects, FilesAreLeaves q := fun q hq => hleaf.of_mem rfl hq
  have htexts : ∀ f ∈ (folderAt "" scatteredProjects).files, f.path.isText = true := by
    decide +kernel
  have hfound : (folderAt "" scatteredProjects).find? "lib/a" = some (unreadFile "lib/a.tsx") := rfl
  have hamong : findAmong? "lib/a" scatteredProjects = some (unreadFile "lib/a.tsx") := rfl
  obtain ⟨hone, hmany, -, hfault⟩ :=
    search_finds_first_file "lib/a" (folderAt "" scatteredProjects) scatteredProjects
  exact ⟨rfl, hfound, hfound ▸ hone hleaf, hamong ▸ hmany hleaves, hfault htexts⟩

end Project

end CodeAtlas
