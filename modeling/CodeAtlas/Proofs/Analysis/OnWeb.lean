-- Analyses of a project on the web and of the same project on a disk. The one on the web always
-- succeeds, the one on a disk unless a path is too long; and when both succeed they are the same up
-- to the ids of nodes.
import CodeAtlas.Proofs.Analysis.UnreadFile
import CodeAtlas.Proofs.Project.Relinking
import CodeAtlas.Proofs.Web.Publication
import CodeAtlas.Web.Url

namespace CodeAtlas

/-! ## Projects up to ids -/

theorem Node.unseen_anon : Unseen anon := ⟨fun _ => rfl, fun _ => rfl, fun _ => rfl, fun _ => rfl⟩

namespace Project

variable {p q : Project}

theorem resolveImports_anon (p : Project) (n : Node) :
    resolveImports (p.map Node.anon) n.anon = (p.resolveImports n).anon := by
  have hparsed : n.anon.isParsed = n.isParsed := rfl
  unfold resolveImports
  rw [hparsed, Node.unseen_anon.followAll_map]
  split <;> rfl

theorem importGraph_anon (p : Project) :
    importGraph (p.map Node.anon) = p.importGraph.map Node.anon := by
  unfold importGraph
  rw [Tree.map_map, Tree.map_map]
  simp only [resolveImports_anon]

theorem importGraph_sameButIds (h : q.map Node.anon = p.map Node.anon) :
    q.importGraph.map Node.anon = p.importGraph.map Node.anon := by
  rw [← importGraph_anon, h, importGraph_anon]

theorem among_sameButIds (h : q.map Node.anon = p.map Node.anon) :
    Dependency.among [q] = Dependency.among [p] := by
  have hanon : ∀ r : Project, Dependency.among [r] =
      Dependency.ofFiles (parsedFiles (r.map Node.anon)) := by
    intro r
    unfold Dependency.among parsedFilesOf
    rw [List.flatMap_singleton, parsedFiles_map Node.unseen_anon.isFile Node.unseen_anon.source,
      Node.unseen_anon.dependencies_map]
  rw [hanon, h, ← hanon]

end Project

/-! ## Analyses and scans -/

namespace Analysis

variable {s : Settings} {p p' : Provider}

theorem progress_run {path : Label} {a : Analysis} (hrun : (run s p path).result = .ok a) :
    (run s p path).progress = (Scan.run s p path).progress ++ [complete] := by
  obtain ⟨scan, hscan, hfault, -⟩ := (run_eq_ok_iff s p path a).1 hrun
  have hnotes : ∀ notes : List Note, (notes.map Event.noted).filterMap Event.progress? = [] := by
    intro notes
    rw [List.filterMap_map]
    simp [Function.comp_def, Event.progress?]
  have hclosing : (closingEvents scan).filterMap Event.progress? = [complete] := by
    unfold closingEvents
    rw [List.filterMap_append, hnotes]
    rfl
  unfold run
  rw [Run.bind_eq_next, Run.next_of_ok hscan]
  simp [hfault, Run.bind_eq_next, Run.next, Run.emit, Run.pure_eq_done, Run.done, Run.progress,
    hclosing]

/-- Scans that are the same up to ids make the same analysis up to ids. -/
theorem ofScan_sameButIds {scan scan' : Scan}
    (hproject : scan'.project.map Node.anon = scan.project.map Node.anon) :
    (ofScan scan').project.map Node.anon = (ofScan scan).project.map Node.anon ∧
      (ofScan scan').dependencies = (ofScan scan).dependencies := by
  have hgraph := Project.importGraph_sameButIds hproject
  exact ⟨hgraph, Project.among_sameButIds hgraph⟩

theorem exists_run_on_disk_iff {disk table : Disk} {root : List String} (hdisk : disk.WellFormed)
    (hserves : Scan.Serves disk root table) :
    (∃ a, (run s (.ofDisk disk root) (.text "")).result = .ok a) ↔ s.FindsShort root table := by
  rw [← hserves.exists_run_iff]
  simp only [run_eq_ok_iff]
  constructor
  · rintro ⟨a, scan, hscan, -, -⟩
    exact ⟨scan, hscan⟩
  · rintro ⟨scan, hscan⟩
    have hplaced := Scan.wellPlaced_of_run hdisk hscan
    exact ⟨_, scan, hscan, Project.importFault?_eq_none hplaced, rfl⟩

theorem exists_run_on_web {web : Web} {r : Repository} {table : Disk} (htable : table.WellFormed)
    (hpublishes : r.Publishes web [] table) (s : Settings) :
    ∃ a, (run s (.ofRepository web r) (.text "")).result = .ok a := by
  obtain ⟨scan, hscan, htexts⟩ := hpublishes.exists_run htable s
  refine ⟨ofScan scan, (run_eq_ok_iff _ _ _ _).2 ⟨scan, hscan, ?_, rfl⟩⟩
  exact Project.importFault?_eq_none_of_isText htexts

/-! ## The web and the disk -/

/-- A project without carriage returns that is published on the web can always be analysed there.
On a disk it can be analysed exactly if no path that is looked at is too long. Then both give the
same project up to ids, the same call edges, dependencies and problems, and the same progress. -/
theorem run_on_web_as_on_disk (s : Settings) (identify : String → String) (disk : Disk)
    (root : List String) (table : Disk) (web : Web) (r : Repository) (hdisk : disk.WellFormed)
    (hfit : disk.NamesFit) (hroot : disk.at? root = .ok (.folder table))
    (htexts : table.HasPlainTexts) (hpublishes : r.Publishes web [] table) :
    ((∃ a, (run s (.ofDisk disk root) (.text "")).result = .ok a) ↔ s.FindsShort root table) ∧
      ∃ a', (run (s.identifiedBy identify) (.ofRepository web r) (.text "")).result = .ok a' ∧
        ∀ a, (run s (.ofDisk disk root) (.text "")).result = .ok a →
          a'.project.map Node.anon = a.project.map Node.anon ∧ a'.edges = a.edges ∧
          a'.dependencies = a.dependencies ∧ a'.problems = a.problems ∧
          (run (s.identifiedBy identify) (.ofRepository web r) (.text "")).progress =
            (run s (.ofDisk disk root) (.text "")).progress := by
  have hserves : Scan.Serves disk root table :=
    ⟨(Disk.itemWellFormed_folder _).1 (hdisk.of_at? hroot), hfit.of_at? hroot, hroot⟩
  refine ⟨exists_run_on_disk_iff hdisk hserves, ?_⟩
  obtain ⟨a', hrun'⟩ := exists_run_on_web hserves.wellFormed hpublishes (s.identifiedBy identify)
  refine ⟨a', hrun', ?_⟩
  intro a hrun
  obtain ⟨scan, hscan, -, rfl⟩ := (run_eq_ok_iff _ _ _ _).1 hrun
  obtain ⟨scan', hscan', -, rfl⟩ := (run_eq_ok_iff _ _ _ _).1 hrun'
  obtain ⟨hproject, hedges, hproblems, hprogress⟩ :=
    (hpublishes.mirrors hserves htexts).run_eq hscan hscan'
      fun _ _ => hpublishes.mirrored_top hserves
  obtain ⟨hgraph, hdependencies⟩ := ofScan_sameButIds hproject
  refine ⟨hgraph, hedges, hdependencies, hproblems, ?_⟩
  rw [progress_run hrun, progress_run hrun', hprogress]

end Analysis

/-! ## A project that is published -/

theorem Web.get_of_answer {web : Web} {url : String} {content : Content}
    (hfault : web.requestFault? (.text url) = none)
    (hreply : web.reply url = .answer 200 content)
    (hanswer : web.transport.answerRefusal? url = none) : web.get (.text url) = .ok content := by
  unfold get
  simp [hfault, Json.shown, hreply, hanswer]

namespace Repository

/-- The object that describes an item, with the address of its bytes if it is a file. -/
def describing (kind name path : String) (url : Option String) : Json :=
  .object [("type", .text kind), ("name", .text name), ("path", .text path),
    ("download_url", .ofText? url)]

theorem describes_describing {kind : EntryKind} {type name path : String} {folders : List String}
    {url : Option String} (htype : kind.label = .text type)
    (hpath : path = Path.render (folders ++ [name])) :
    Describes (describing type name path url) kind folders name := by
  refine ⟨⟨_, rfl⟩, ?_, rfl, ?_⟩
  · rw [htype]
    rfl
  · rw [← hpath]
    rfl

theorem listsFolder_of_reply {r : Repository} {web : Web} {path : List String} {d : Disk}
    {items : List Json}
    (hfault : web.requestFault? (.text (r.listingUrl (folderLabel path))) = none)
    (hreply : web.reply (r.listingUrl (folderLabel path)) = .answer 200 (.json (.list items)))
    (hanswer : web.transport.answerRefusal? (r.listingUrl (folderLabel path)) = none)
    (horder : d.Pairwise fun a b => a.1 ≤ b.1) (hlists : Lists web path d items) :
    r.ListsFolder web path d := by
  refine ⟨_, items, Web.get_of_answer hfault hreply hanswer, rfl, ?_⟩
  rwa [Disk.sorted_of_pairwise horder]

end Repository

namespace Analysis

open Repository (describing describes_describing listsFolder_of_reply)

/-- A folder with a file that is read, one with a fault, a link, and a folder that is left out. -/
def publishedFolder : Disk :=
  [("gone", .deadLink), ("lib", .folder [("broken.js", .file (Utf8.encode "(".toList))]),
    ("main.ts", .file (Utf8.encode "function f()\x7bg()\x7d".toList)),
    ("node_modules", .folder [])]

theorem folder_mem_publishedFolder {name : String} {inside : Disk}
    (hmem : (name, .folder inside) ∈ publishedFolder) :
    (name = "lib" ∧ inside = [("broken.js", .file (Utf8.encode "(".toList))]) ∨
      (name = "node_modules" ∧ inside = []) := by
  simpa [publishedFolder] using hmem

def publishedDisk : Disk := [("proj", .folder publishedFolder)]

def publishedWeb : Web :=
  .ofReplies
    [("/repos/o/r/contents/", .answer 200 (.json (.list [
        describing "symlink" "gone" "gone" none, describing "dir" "lib" "lib" none,
        describing "file" "main.ts" "main.ts" (some "/raw/main.ts"),
        describing "dir" "node_modules" "node_modules" none]))),
      ("/repos/o/r/contents/lib", .answer 200 (.json (.list [
        describing "file" "broken.js" "lib/broken.js" (some "/raw/broken.js")]))),
      ("/repos/o/r/contents/node_modules", .answer 200 (.json (.list []))),
      ("/raw/main.ts", .answer 200 (.bytes (Utf8.encode "function f()\x7bg()\x7d".toList))),
      ("/raw/broken.js", .answer 200 (.bytes (Utf8.encode "(".toList)))]

theorem publishes_publishedWeb :
    Repository.Publishes ⟨"o", "r"⟩ publishedWeb [] publishedFolder := by
  have hmain : publishedWeb.get (.text "/raw/main.ts") = .ok _ :=
    Web.get_of_answer (by decide +kernel) rfl (by decide +kernel)
  have hbroken : publishedWeb.get (.text "/raw/broken.js") = .ok _ :=
    Web.get_of_answer (by decide +kernel) rfl (by decide +kernel)
  have htop : Repository.ListsFolder ⟨"o", "r"⟩ publishedWeb [] publishedFolder := by
    refine listsFolder_of_reply (by decide +kernel) rfl (by decide +kernel) (by decide) ?_
    refine .deadLink (.other rfl (.folder (describes_describing rfl (by decide +kernel)) ?_))
    refine .file (describes_describing rfl (by decide +kernel)) rfl (by decide) hmain rfl ?_
    exact .folder (describes_describing rfl (by decide +kernel)) .nil
  refine htop.publishes ?_
  intro name inside hmem
  obtain ⟨rfl, rfl⟩ | ⟨rfl, rfl⟩ := folder_mem_publishedFolder hmem
  · refine Repository.ListsFolder.publishes ?_ (by simp)
    refine listsFolder_of_reply (by decide +kernel) rfl (by decide +kernel) (by decide) ?_
    exact .file (describes_describing rfl (by decide +kernel)) rfl (by decide) hbroken rfl .nil
  · refine Repository.ListsFolder.publishes ?_ (by simp)
    exact listsFolder_of_reply (by decide +kernel) rfl (by decide +kernel) .nil .nil

theorem findsShort_publishedFolder : Scan.smallFiles.FindsShort ["proj"] publishedFolder := by
  have hwell : publishedFolder.WellFormed := by
    simp [publishedFolder, Disk.WellFormed, Disk.ItemWellFormed]
    decide
  refine (Settings.findsShort_iff hwell _).2 ⟨by decide, ?_⟩
  intro name inside hlookup _
  have hinside := (Disk.itemWellFormed_folder _).1 (hwell.of_lookup hlookup)
  obtain ⟨rfl, rfl⟩ | ⟨rfl, rfl⟩ := folder_mem_publishedFolder (Disk.mem_of_lookup hlookup)
  · refine (Settings.findsShort_iff hinside _).2 ⟨by decide, ?_⟩
    intro next below hnext
    simpa using Disk.mem_of_lookup hnext
  · refine (Settings.findsShort_iff hinside _).2 ⟨by decide, ?_⟩
    intro next below hnext
    simpa using Disk.mem_of_lookup hnext

theorem hasPlainTexts_publishedFolder : publishedFolder.HasPlainTexts := by
  refine Disk.hasPlainTexts_of_items ?_ ?_
  · intro name bytes hmem
    simp only [publishedFolder, List.mem_cons, Prod.mk.injEq, reduceCtorEq, DiskItem.file.injEq,
      and_false, false_or, or_false, List.not_mem_nil] at hmem
    obtain ⟨-, rfl⟩ := hmem
    decide +kernel
  · intro name inside hmem
    obtain ⟨-, rfl⟩ | ⟨-, rfl⟩ := folder_mem_publishedFolder hmem
    · refine Disk.hasPlainTexts_of_items ?_ (by simp)
      intro name bytes hmem
      simp only [List.mem_singleton, Prod.mk.injEq, DiskItem.file.injEq] at hmem
      rw [hmem.2]
      decide +kernel
    · exact Disk.hasPlainTexts_of_items (by simp) (by simp)

theorem run_on_web_as_on_disk_published :
    publishedDisk.WellFormed ∧ publishedDisk.NamesFit ∧
      publishedDisk.at? ["proj"] = .ok (.folder publishedFolder) ∧
      publishedFolder.HasPlainTexts ∧
      Repository.Publishes ⟨"o", "r"⟩ publishedWeb [] publishedFolder ∧
      ∃ a a', (run Scan.smallFiles (.ofDisk publishedDisk ["proj"]) (.text "")).result = .ok a ∧
        (run (Scan.smallFiles.identifiedBy fun path => "id of " ++ path)
          (.ofRepository publishedWeb ⟨"o", "r"⟩) (.text "")).result = .ok a' ∧
        a'.edges = [⟨"f", "g", ⟨1, 13⟩, .unknown⟩] ∧
        a'.problems = [⟨.text "lib/broken.js", .faulty ⟨⟨1, 0⟩, .unexpected⟩⟩] ∧
        a'.project.map Node.anon = a.project.map Node.anon ∧ a'.edges = a.edges ∧
        a'.dependencies = a.dependencies ∧ a'.problems = a.problems ∧
        (run (Scan.smallFiles.identifiedBy fun path => "id of " ++ path)
          (.ofRepository publishedWeb ⟨"o", "r"⟩) (.text "")).progress =
            (run Scan.smallFiles (.ofDisk publishedDisk ["proj"]) (.text "")).progress := by
  have hwell : publishedDisk.WellFormed := by
    simp [publishedDisk, publishedFolder, Disk.WellFormed, Disk.ItemWellFormed]
    decide
  have hfit : publishedDisk.NamesFit := by
    simp [publishedDisk, publishedFolder, Disk.NamesFit, Disk.ItemNamesFit]
    decide
  have hat : publishedDisk.at? ["proj"] = .ok (.folder publishedFolder) := rfl
  obtain ⟨hsucceeds, a', hrun', hsame⟩ := run_on_web_as_on_disk Scan.smallFiles
    (fun path => "id of " ++ path) _ _ _ _ _ hwell hfit hat hasPlainTexts_publishedFolder
    publishes_publishedWeb
  have hfound : (run (Scan.smallFiles.identifiedBy fun path => "id of " ++ path)
      (.ofRepository publishedWeb ⟨"o", "r"⟩) (.text "")).result.toOption.map
        (fun a => (a.edges, a.problems)) = some ([⟨"f", "g", ⟨1, 13⟩, .unknown⟩],
          [⟨.text "lib/broken.js", .faulty ⟨⟨1, 0⟩, .unexpected⟩⟩]) := by
    decide +kernel
  rw [hrun'] at hfound
  obtain ⟨hedges, hproblems⟩ := Prod.mk.inj (Option.some.inj hfound)
  obtain ⟨a, hrun⟩ := hsucceeds.2 findsShort_publishedFolder
  exact ⟨hwell, hfit, hat, hasPlainTexts_publishedFolder, publishes_publishedWeb, a, a', hrun,
    hrun', hedges, hproblems, hsame a hrun⟩

/-! ## A project whose paths are too long on a disk -/

def windingWeb : Web :=
  .ofReplies
    [("/repos/o/r/contents/", .answer 200 (.json (.list [
        describing "file" "a.md" "a.md" (some "/raw/a.md"), describing "dir" "d" "d" none]))),
      ("/repos/o/r/contents/d", .answer 200 (.json (.list []))),
      ("/raw/a.md", .answer 200 (.bytes []))]

theorem folder_mem_windingFolder {name : String} {inside : Disk}
    (hmem : (name, .folder inside) ∈ Scan.windingFolder) : name = "d" ∧ inside = [] := by
  simpa [Scan.windingFolder] using hmem

theorem publishes_windingWeb :
    Repository.Publishes ⟨"o", "r"⟩ windingWeb [] Scan.windingFolder := by
  have hfile : windingWeb.get (.text "/raw/a.md") = .ok _ :=
    Web.get_of_answer (by decide +kernel) rfl (by decide +kernel)
  have htop : Repository.ListsFolder ⟨"o", "r"⟩ windingWeb [] Scan.windingFolder := by
    refine listsFolder_of_reply (by decide +kernel) rfl (by decide +kernel) (by decide) ?_
    refine .file (describes_describing rfl (by decide +kernel)) rfl (by decide) hfile rfl ?_
    exact .folder (describes_describing rfl (by decide +kernel)) .nil
  refine htop.publishes ?_
  intro name inside hmem
  obtain ⟨rfl, rfl⟩ := folder_mem_windingFolder hmem
  refine Repository.ListsFolder.publishes ?_ (by simp)
  exact listsFolder_of_reply (by decide +kernel) rfl (by decide +kernel) .nil .nil

/-- A project can be analysed on the web while it cannot be on a disk, where each of its paths is
too long. -/
theorem long_path_stops_analysis_on_disk :
    Scan.windingDisk.WellFormed ∧ Scan.windingDisk.NamesFit ∧
      Scan.windingDisk.at? Scan.windingRoot = .ok (.folder Scan.windingFolder) ∧
      Scan.windingFolder.HasPlainTexts ∧
      Repository.Publishes ⟨"o", "r"⟩ windingWeb [] Scan.windingFolder ∧
      ∀ s, (∃ a, (run s (.ofRepository windingWeb ⟨"o", "r"⟩) (.text "")).result = .ok a) ∧
        ∀ a, (run s (.ofDisk Scan.windingDisk Scan.windingRoot) (.text "")).result ≠ .ok a := by
  have hwell : Scan.windingDisk.WellFormed := by
    simp [Scan.windingDisk, Scan.windingFolder, Disk.WellFormed, Disk.ItemWellFormed]
    decide
  have hfit : Scan.windingDisk.NamesFit := by
    simp [Scan.windingDisk, Scan.windingFolder, Disk.NamesFit, Disk.ItemNamesFit]
    decide
  have hserves : Scan.Serves Scan.windingDisk Scan.windingRoot Scan.windingFolder :=
    ⟨(Disk.itemWellFormed_folder _).1 (hwell.of_at? Scan.at?_windingRoot),
      hfit.of_at? Scan.at?_windingRoot, Scan.at?_windingRoot⟩
  have htexts : Scan.windingFolder.HasPlainTexts := by
    refine Disk.hasPlainTexts_of_items ?_ ?_
    · intro name bytes hmem
      simp only [Scan.windingFolder, List.mem_cons, Prod.mk.injEq, reduceCtorEq,
        DiskItem.file.injEq, and_false, or_false, List.not_mem_nil] at hmem
      rw [hmem.2]
      decide
    · intro name inside hmem
      obtain ⟨-, rfl⟩ := folder_mem_windingFolder hmem
      exact Disk.hasPlainTexts_of_items (by simp) (by simp)
  refine ⟨hwell, hfit, Scan.at?_windingRoot, htexts, publishes_windingWeb, fun s => ⟨?_, ?_⟩⟩
  · exact exists_run_on_web hserves.wellFormed publishes_windingWeb s
  · intro a hrun
    have hshort := (exists_run_on_disk_iff hwell hserves).1 ⟨a, hrun⟩ [] "a.md" rfl
      (by simp [Settings.enters])
    rw [List.append_nil, Scan.isTooLong_windingRoot] at hshort
    cases hshort

end Analysis

end CodeAtlas
