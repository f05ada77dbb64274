-- What a source file that was not read does to an analysis. Without it, the calls and the
-- dependencies are the same, and so are the imports unless the file hides another one.
import CodeAtlas.Proofs.Project.Hiding
import CodeAtlas.Proofs.Scan.Removal
import CodeAtlas.Scan.Analysis

namespace CodeAtlas

/-! ## Analyses and scans -/

theorem Analysis.run_eq_ok_iff (s : Settings) (p : Provider) (path : Label) (a : Analysis) :
    (run s p path).result = .ok a ↔ ∃ scan, (Scan.run s p path).result = .ok scan ∧
      scan.project.importFault? = none ∧ a = ofScan scan := by
  unfold run
  rw [Run.bind_eq_next]
  cases hscan : (Scan.run s p path).result with
  | error e =>
    rw [Run.next_of_error hscan]
    simp
  | ok scan =>
    rw [Run.next_of_ok hscan]
    cases hfault : scan.project.importFault? with
    | some f => simp [hfault, Run.fail]
    | none =>
      simp [hfault, Run.bind_eq_next, Run.next, Run.emit, Run.pure_eq_done, Run.done, eq_comm]

namespace Scan

/-! ## The file that was not read -/

theorem isImportable_of_isUnread {f : Node} (h : f.isUnread = true) : f.isImportable = false := by
  unfold Node.isUnread at h
  obtain ⟨hdialect, hsource⟩ := Bool.and_eq_true_iff.1 h
  have hname : isSourceFile f.name.shown = true := by
    unfold Node.dialect? at hdialect
    cases hlabel : f.name with
    | text name => simpa [hlabel, Json.text?, isSourceFile, Json.shown] using hdialect
    | _ => simp [hlabel, Json.text?] at hdialect
  unfold Node.isImportable
  simp [Option.isNone_iff_eq_none.1 hsource, hname]

/-- The project that is scanned after the removal lacks the file. -/
theorem lacks_of_run {s : Settings} {p : Provider} {path : Label} {scan scan' : Scan}
    (h : (run s p path).result = .ok scan) (hplaced : scan.project.WellPlaced)
    (hplaced' : scan'.project.WellPlaced) {r : FileProblem} (hr : r ∈ scan.problems)
    (hproject : scan'.project = scan.project.prune fun n => !n.isFileAt r.path) :
    scan.project.Lacks scan'.project r.path := by
  obtain ⟨f, hf, hunread, hpath⟩ := (agrees_of_run h).exists_file hr
  rw [List.flatMap_singleton] at hf
  refine ⟨hplaced, hplaced', ?_, ?_⟩
  · have hroot : (!scan.project.label.isFileAt r.path) = true := by
      simp [Node.isFileAt, isFile_label_of_run h]
    have hkeep : ∀ n : Node, (!n.isFileAt r.path) = false → n.isFile = true := by
      intro n hn
      simp only [Node.isFileAt, Bool.not_eq_false', Bool.and_eq_true] at hn
      exact hn.1
    rw [hproject, Project.files_prune hkeep _ hplaced.leaves hroot]
    refine List.filter_congr fun g hg => ?_
    simp [Node.isFileAt, (Project.mem_files.1 hg).2]
  · intro g hg hgone
    rw [hplaced.eq_of_path hg hf (hgone.trans hpath.symm)]
    exact isImportable_of_isUnread hunread

theorem edges_of_run {s : Settings} {p : Provider} {path : Label} {scan : Scan}
    (h : (run s p path).result = .ok scan) :
    scan.edges = (scan.project.parsedFiles.filterMap Node.source).flatMap Source.callEdges := by
  have hedges := (agrees_of_run h).edges
  rw [List.flatMap_singleton, ← Project.filterMap_source_parsedFiles] at hedges
  exact hedges

end Scan

namespace Analysis

/-- A source file that was not read adds nothing to the graphs of a project: it is no key of the
adjacency, and no import leads to it. With the file removed from the disk the analysis succeeds as
well and finds the same calls and dependencies; every file keeps its imports and may only get
more. The imports are the same exactly if the file is not the first match of an import that leads
to another file once it is gone. -/
theorem run_without_unread_file (s : Settings) (disk : Disk) (root : List String) (path : Label)
    (a : Analysis) (r : FileProblem) (hdisk : disk.WellFormed)
    (h : (run s (.ofDisk disk root) path).result = .ok a) (hr : r ∈ a.problems) :
    (r.path ∉ a.project.adjacency.keys ∧
      ∀ entry ∈ a.project.adjacency.entries, ∀ target ∈ entry.2, Json.text target ≠ r.path) ∧
    ∃ a', (run s (.ofDisk (disk.removeFile
        (Disk.locate (root ++ Path.components r.path.shown))) root) path).result = .ok a' ∧
      a'.problems = a.problems.filter (fun other => other.path ≠ r.path) ∧
      a'.edges = a.edges ∧
      a'.dependencies = a.dependencies ∧
      List.Forall₂ (fun e e' => e'.1 = e.1 ∧ e.2.Sublist e'.2) a.project.adjacency.entries
        a'.project.adjacency.entries ∧
      (a'.project.adjacency = a.project.adjacency ↔ ¬ a.project.Hides r.path) := by
  obtain ⟨scan, hscan, -, rfl⟩ := (run_eq_ok_iff _ _ _ _).1 h
  obtain ⟨scan', hscan', hproject, hproblems⟩ := Scan.run_removeFile hdisk hscan hr
  have hplaced := Scan.wellPlaced_of_run hdisk hscan
  have hplaced' := Scan.wellPlaced_of_run (hdisk.removeFile _) hscan'
  have hlacks := Scan.lacks_of_run hscan hplaced hplaced' hr hproject
  have hfault := Project.importFault?_eq_none hplaced'
  have hrun' := (run_eq_ok_iff _ _ _ _).2 ⟨scan', hscan', hfault, rfl⟩
  refine ⟨hlacks.notMem_adjacency, ofScan scan', hrun', hproblems, ?_, ?_,
    hlacks.adjacency_sublist, ?_⟩
  · show scan'.edges = scan.edges
    rw [Scan.edges_of_run hscan, Scan.edges_of_run hscan', hlacks.parsedFiles_eq]
  · show Dependency.among [scan'.project.importGraph] = Dependency.among [scan.project.importGraph]
    rw [Project.among_importGraph, Project.among_importGraph, hlacks.parsedFiles_eq]
  · show scan'.project.importGraph.adjacency = scan.project.importGraph.adjacency ↔
      ¬ scan.project.importGraph.Hides r.path
    rw [hlacks.adjacency_eq_iff, Project.hides_importGraph]

/-! ## A file that hides another one -/

/-- A text with one import. -/
def importReading : Reading where
  dialect := .typescript
  text := "import './b'"
  rows :=
    [⟨0, "program", 0, ⟨0, 0⟩, 12, true, false, false, false, none⟩,
      ⟨1, "import_statement", 0, ⟨0, 0⟩, 12, true, false, false, false, none⟩,
      ⟨2, "import", 0, ⟨0, 0⟩, 6, false, false, false, false, none⟩,
      ⟨2, "string", 7, ⟨0, 7⟩, 12, true, false, false, false, some .source⟩,
      ⟨3, "'", 7, ⟨0, 7⟩, 8, false, false, false, false, none⟩,
      ⟨3, "string_fragment", 8, ⟨0, 8⟩, 11, true, false, false, false, none⟩,
      ⟨3, "'", 11, ⟨0, 11⟩, 12, false, false, false, false, none⟩]

def emptyReading : Reading where
  dialect := .typescript
  text := ""
  rows := [⟨0, "program", 0, ⟨0, 0⟩, 0, true, false, false, false, none⟩]

def importSettings : Settings where
  grammar := .ofReadings [importReading, Scan.brokenReading, emptyReading]
  rules := none
  limit := defaultLimit
  identify := id

/-- The import in the first file matches the second one, which cannot be read, and the third. -/
def hidingDisk : Disk :=
  [("a.ts", .file (Utf8.encode "import './b'".toList)), ("b.js", .file (Utf8.encode "(".toList)),
    ("b.ts", .file [])]

/-- What is found to be wrong with the second file. -/
def hidingProblem : FileProblem := ⟨.text "b.js", .faulty ⟨⟨1, 0⟩, .unexpected⟩⟩

theorem wellFormed_hidingDisk : hidingDisk.WellFormed := by
  simp only [hidingDisk, Disk.WellFormed, Disk.ItemWellFormed]
  decide

theorem run_hidingDisk :
    ∃ a, (run importSettings (.ofDisk hidingDisk []) (.text "")).result = .ok a ∧
      hidingProblem ∈ a.problems ∧
      a.project.adjacency.entries = [(.text "a.ts", []), (.text "b.ts", [])] := by
  have hgives := (Scan.run_gives_iff importSettings (.ofDisk hidingDisk []) (.text "") _ _).2
    ⟨_, _, _, _, _, rfl, rfl, Provider.list_top (by decide) (by decide),
      .file rfl rfl (.fetched rfl rfl rfl) (.file rfl rfl (.fetched rfl rfl rfl)
        (.file rfl rfl (.fetched rfl rfl rfl) .nil)), rfl, rfl⟩
  refine ⟨_, (run_eq_ok_iff _ _ _ _).2 ⟨_, congrArg Run.result hgives, ?_, rfl⟩, ?_, ?_⟩
  · decide +kernel
  · decide +kernel
  · decide +kernel

theorem run_hidingDisk_removeFile :
    ∃ a, (run importSettings (.ofDisk (hidingDisk.removeFile ["b.js"]) []) (.text "")).result =
        .ok a ∧
      a.project.adjacency.entries = [(.text "a.ts", ["b.ts"]), (.text "b.ts", [])] := by
  have hgives := (Scan.run_gives_iff importSettings (.ofDisk (hidingDisk.removeFile ["b.js"]) [])
    (.text "") _ _).2
    ⟨_, _, _, _, _, rfl, rfl, Provider.list_top (by decide) (by decide),
      .file rfl rfl (.fetched rfl rfl rfl) (.file rfl rfl (.fetched rfl rfl rfl) .nil), rfl, rfl⟩
  refine ⟨_, (run_eq_ok_iff _ _ _ _).2 ⟨_, congrArg Run.result hgives, ?_, rfl⟩, ?_⟩
  · decide +kernel
  · decide +kernel

/-- A file that cannot be read hides one that can, so that an import is only found without it. -/
theorem unread_file_hides_another :
    ∃ a a', (run importSettings (.ofDisk hidingDisk []) (.text "")).result = .ok a ∧
      hidingProblem ∈ a.problems ∧
      (run importSettings (.ofDisk (hidingDisk.removeFile ["b.js"]) []) (.text "")).result =
        .ok a' ∧
      a.project.adjacency.entries = [(.text "a.ts", []), (.text "b.ts", [])] ∧
      a'.project.adjacency.entries = [(.text "a.ts", ["b.ts"]), (.text "b.ts", [])] ∧
      a'.project.adjacency ≠ a.project.adjacency := by
  obtain ⟨a, ha, hproblem, hentries⟩ := run_hidingDisk
  obtain ⟨a', ha', hentries'⟩ := run_hidingDisk_removeFile
  refine ⟨a, a', ha, hproblem, ha', hentries, hentries', ?_⟩
  intro heq
  rw [heq, hentries] at hentries'
  exact absurd hentries' (by decide)

theorem run_without_unread_file_hiding :
    ∃ a, hidingDisk.WellFormed ∧
      (run importSettings (.ofDisk hidingDisk []) (.text "")).result = .ok a ∧
      hidingProblem ∈ a.problems ∧
      ∃ a', (run importSettings (.ofDisk (hidingDisk.removeFile ["b.js"]) []) (.text "")).result =
          .ok a' ∧
        a'.problems = a.problems.filter (fun other => other.path ≠ hidingProblem.path) ∧
        a'.edges = a.edges ∧ a'.dependencies = a.dependencies ∧
        (a'.project.adjacency = a.project.adjacency ↔ ¬ a.project.Hides hidingProblem.path) := by
  obtain ⟨a, ha, hproblem, -⟩ := run_hidingDisk
  obtain ⟨-, a', ha', hproblems, hedges, hdependencies, -, hiff⟩ :=
    run_without_unread_file importSettings hidingDisk [] (.text "") a hidingProblem
      wellFormed_hidingDisk ha hproblem
  exact ⟨a, wellFormed_hidingDisk, ha, hproblem, a', ha', hproblems, hedges, hdependencies, hiff⟩

end Analysis

end CodeAtlas
