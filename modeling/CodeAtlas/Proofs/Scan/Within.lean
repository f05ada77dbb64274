-- Scans within scans. A folder of a scan can be scanned by itself. What this brings in is what the
-- larger scan has at the place of the folder, and what the larger scan has before and after it is
-- told by the files before and after it.
import CodeAtlas.Proofs.Scan.Mirror
import CodeAtlas.Web.Url

namespace CodeAtlas

/-! ## The place of a subtree -/

namespace Tree

variable {α : Type} {d : Tree α}

mutual

/-- What lies below a subtree comes right after it in reading order. -/
theorem exists_after_of_preorder : (t : Tree α) → {before rest : List (Tree α)} →
    t.preorder = before ++ d :: rest → ∃ after, t.preorder = before ++ d.preorder ++ after
  | node a ts, [], rest, h => by
    obtain ⟨rfl, -⟩ := List.cons.inj h
    exact ⟨[], by simp⟩
  | node a ts, t :: before, rest, h => by
    obtain ⟨rfl, hbelow⟩ := List.cons.inj h
    obtain ⟨after, hafter⟩ := exists_after_of_preorderAll ts hbelow
    exact ⟨after, congrArg (node a ts :: ·) hafter⟩

theorem exists_after_of_preorderAll : (ts : List (Tree α)) → {before rest : List (Tree α)} →
    preorderAll ts = before ++ d :: rest → ∃ after, preorderAll ts = before ++ d.preorder ++ after
  | [], before, rest, h => by simp [preorderAll] at h
  | t :: ts, before, rest, h => by
    unfold preorderAll at h ⊢
    -- the subtree lies in the first tree or in one of those that follow
    rcases List.append_eq_append_iff.1 h with ⟨passed, rfl, hlater⟩ | ⟨passed, hfirst, hrest⟩
    · obtain ⟨after, hafter⟩ := exists_after_of_preorderAll ts hlater
      exact ⟨after, by simp [hafter]⟩
    · cases passed with
      | nil =>
        have hlater : preorderAll ts = [] ++ d :: rest := hrest.symm
        obtain ⟨after, hafter⟩ := exists_after_of_preorderAll ts hlater
        exact ⟨after, by simp [hafter, hfirst]⟩
      | cons u passed =>
        obtain ⟨rfl, -⟩ := List.cons.inj hrest
        obtain ⟨after, hafter⟩ := exists_after_of_preorder t hfirst
        exact ⟨after ++ preorderAll ts, by simp [hafter]⟩

end

end Tree

/-- The files among some parts of a project. -/
def Project.filesAmong (ts : List Project) : List Node := (ts.map Tree.label).filter Node.isFile

theorem Project.filesAmong_append (ts us : List Project) :
    filesAmong (ts ++ us) = filesAmong ts ++ filesAmong us := by
  unfold filesAmong
  rw [List.map_append, List.filter_append]

theorem Project.filesAmong_preorder (p : Project) : filesAmong p.preorder = p.files := rfl

/-- The problem of a source file that was not read. -/
def Node.problem? (s : Settings) (f : Node) : Option FileProblem :=
  f.dialect?.bind fun d => f.text.bind fun text =>
    (s.problem? d text).map (FileProblem.mk f.path)

namespace Scan

variable {s : Settings} {p : Provider} {n m : Nat} {e : Entry} {es : List Entry}
  {events : List Event} {h : Harvest}

/-! ## Problems -/

theorem problems_of_takes (htakes : Takes s p e events h) :
    h.problems = (h.nodes.flatMap Project.files).filterMap (Node.problem? s) := by
  cases htakes with
  | plain hname hdialect =>
    rw [files_leaf rfl]
    simp [leaf, Node.problem?, dialect?_plainFile hname, hdialect]
  | @source name text d hname hdialect _ =>
    have hproblem : (sourceFile s e d text).problem? s =
        (s.problem? d text).map (FileProblem.mk e.path) := by
      rw [Node.problem?, dialect?_sourceFile hname, hdialect]
      rfl
    unfold sourceHarvest
    rw [files_leaf rfl, List.filterMap_cons, hproblem]
    cases s.problem? d text <;> rfl

/-- The problems that a scan brings in are those of the files, in reading order. -/
theorem problems_of_gathers (hgathers : Gathers s p n es events h) :
    h.problems = (h.nodes.flatMap Project.files).filterMap (Node.problem? s) := by
  induction hgathers with
  | nil => rfl
  | leftOut _ _ ih => exact ih
  | other _ _ _ ih => exact ih
  | file _ _ htakes _ ih =>
    rw [Harvest.problems_append, Harvest.nodes_append, List.flatMap_append, List.filterMap_append,
      problems_of_takes htakes, ih]
  | folder _ _ _ _ _ ihinside ih =>
    rw [Harvest.problems_append, Harvest.nodes_append, List.flatMap_append, List.filterMap_append,
      List.flatMap_singleton, Project.files_folder rfl, ih, ihinside]

theorem problems_run {path : Label} {scan : Scan} (hrun : (run s p path).result = .ok scan) :
    scan.problems = scan.project.files.filterMap (Node.problem? s) := by
  obtain ⟨_, name, es, _, h, _, _, _, hgathers, _, rfl⟩ :=
    (run_gives_iff _ _ _ _ scan).1 (Run.gives_of_result hrun)
  rw [Project.files_folder rfl]
  exact problems_of_gathers hgathers

/-! ## The scan of a folder within a scan -/

/-- A scan that may go deeper does the same. -/
theorem Gathers.mono (hgathers : Gathers s p n es events h) (hle : n ≤ m) :
    Gathers s p m es events h := by
  induction hgathers generalizing m with
  | nil => exact .nil
  | leftOut hexcluded _ ih => exact .leftOut hexcluded (ih hle)
  | other hkept hkind _ ih => exact .other hkept hkind (ih hle)
  | file hkept hkind htakes _ ih => exact .file hkept hkind htakes (ih hle)
  | folder hkept hkind hlist _ _ ihinside ih =>
    obtain ⟨k, rfl⟩ := Nat.exists_eq_add_of_le' hle
    exact .folder hkept hkind hlist (ihinside (Nat.le_of_succ_le_succ hle)) (ih hle)

theorem Takes.identifiedBy (htakes : Takes s p e events h) (identify : String → String) :
    ∃ h', Takes (s.identifiedBy identify) p e events h' := by
  cases htakes with
  | plain hname hdialect => exact ⟨_, .plain hname hdialect⟩
  | source hname hdialect hfetch => exact ⟨_, .source hname hdialect hfetch⟩

/-- A scan that identifies nodes in another way succeeds too. -/
theorem Gathers.identifiedBy (hgathers : Gathers s p n es events h)
    (identify : String → String) : ∃ h', Gathers (s.identifiedBy identify) p n es events h' := by
  induction hgathers with
  | nil => exact ⟨_, .nil⟩
  | leftOut hexcluded _ ih =>
    obtain ⟨_, hrest⟩ := ih
    exact ⟨_, .leftOut hexcluded hrest⟩
  | other hkept hkind _ ih =>
    obtain ⟨_, hrest⟩ := ih
    exact ⟨_, .other hkept hkind hrest⟩
  | file hkept hkind htakes _ ih =>
    obtain ⟨_, htakes⟩ := htakes.identifiedBy identify
    obtain ⟨_, hrest⟩ := ih
    exact ⟨_, .file hkept hkind htakes hrest⟩
  | folder hkept hkind hlist _ _ ihinside ih =>
    obtain ⟨_, hinside⟩ := ihinside
    obtain ⟨_, hrest⟩ := ih
    exact ⟨_, .folder hkept hkind hlist hinside hrest⟩

theorem mirrors_self (p : Provider) : Mirrors p p Eq where
  place := by
    rintro e _ rfl
    rfl
  fetch := by
    rintro e _ text text' rfl _ htext htext'
    exact Except.ok.inj (htext'.symm.trans htext)
  list := by
    rintro e _ es es' rfl _ hlist hlist'
    cases hlist.symm.trans hlist'
    exact List.forall₂_refl es

/-- What lies in a folder that a scan brings in was gathered from the listing of the folder. -/
theorem Gathers.within (hgathers : Gathers s p n es events h) {d : Project}
    (hd : d ∈ Tree.preorderAll h.nodes) (hfolder : d.label.kind = .folder) :
    ∃ k inside below events', k ≤ n ∧ p.list d.label.path = .ok inside ∧
      Gathers s p k inside events' below ∧ d.children = below.nodes := by
  induction hgathers with
  | nil => cases hd
  | leftOut _ _ ih => exact ih hd
  | other _ _ _ ih => exact ih hd
  | file _ hkind htakes _ ih =>
    rw [Harvest.nodes_append, Tree.preorderAll_append] at hd
    rcases List.mem_append.1 hd with hd | hd
    · cases htakes with
      | plain _ _ =>
        cases List.mem_singleton.1 hd
        cases hfolder
      | source _ _ _ =>
        cases List.mem_singleton.1 hd
        cases hfolder
    · exact ih hd
  | folder _ _ hlist hinside _ ihinside ih =>
    rw [Harvest.nodes_append, Tree.preorderAll_append] at hd
    rcases List.mem_append.1 hd with hd | hd
    · simp only [Tree.preorderAll, Tree.preorder, List.append_nil, List.mem_cons] at hd
      rcases hd with rfl | hd
      · exact ⟨_, _, _, _, Nat.le_succ _, hlist, hinside, rfl⟩
      · obtain ⟨k, inside, below, events', hle, hbelow⟩ := ihinside hd
        exact ⟨k, inside, below, events', Nat.le_succ_of_le hle, hbelow⟩
    · exact ih hd

/-- The same for the whole scan, where the folder may be the one that it starts from. -/
theorem exists_gathers_within {path : Label} {scan : Scan} {d : Project}
    (hrun : (run s p path).result = .ok scan) (hd : d ∈ scan.project.preorder)
    (hfolder : d.label.kind = .folder) :
    ∃ n inside below events', p.depth = n + 1 ∧ p.list d.label.path = .ok inside ∧
      Gathers s p n inside events' below ∧ d.children = below.nodes := by
  obtain ⟨n, name, es, later, h, hdepth, _, hlist, hgathers, _, rfl⟩ :=
    (run_gives_iff _ _ _ _ scan).1 (Run.gives_of_result hrun)
  rcases List.mem_cons.1 hd with rfl | hd
  · exact ⟨n, es, h, later, hdepth, hlist, hgathers, rfl⟩
  · obtain ⟨k, inside, below, events', hle, hlist', hinside, hchildren⟩ :=
      hgathers.within hd hfolder
    exact ⟨n, inside, below, events', hdepth, hlist', hinside.mono hle, hchildren⟩

/-- A folder of a scan can be scanned by itself, if there is a name for it. -/
theorem exists_run_within {path : Label} {scan : Scan} {d : Project} {name : Label}
    (identify : String → String) (hrun : (run s p path).result = .ok scan)
    (hd : d ∈ scan.project.preorder) (hfolder : d.label.kind = .folder)
    (hname : (startName d.label.path).result = .ok name) :
    ∃ inner, (run (s.identifiedBy identify) p d.label.path).result = .ok inner ∧
      inner.project.label.kind = .folder ∧
      Tree.mapAll Node.anon inner.project.children = Tree.mapAll Node.anon d.children := by
  obtain ⟨n, inside, below, events, hdepth, hlist, hgathers, hchildren⟩ :=
    exists_gathers_within hrun hd hfolder
  obtain ⟨below', hgathers'⟩ := hgathers.identifiedBy identify
  have hgives := (run_gives_iff _ p _ _ _).2
    ⟨n, name, inside, events, below', hdepth, hname, hlist, hgathers', rfl, rfl⟩
  have hsame : below.SameButIds below' :=
    (mirrors_self p).sameButIds hgathers hgathers' (List.forall₂_refl inside)
  refine ⟨_, congrArg Run.result hgives, rfl, ?_⟩
  rw [hchildren]
  exact hsame.nodes

theorem exists_startName {path : Label} (h : path.isVoid = true ∨ path.isText = true) :
    ∃ name, (startName path).result = .ok name := by
  unfold startName
  by_cases hvoid : path.isVoid = true
  · rw [if_pos hvoid]
    exact ⟨_, rfl⟩
  · obtain ⟨text, rfl⟩ := Label.text_of_isText (h.resolve_left hvoid)
    rw [if_neg hvoid]
    exact ⟨_, rfl⟩

/-- A scan cannot start from a label that says something and is no text. -/
theorem run_of_notText {path : Label} (hvoid : path.isVoid = false) (htext : path.isText = false) :
    run s p path = Run.fail (.label (.notText path)) := by
  have hname : startName path = Run.fail (.label (.notText path)) := by
    unfold startName
    rw [if_neg (by simp [hvoid])]
    cases path with
    | text t => cases htext
    | _ => rfl
  unfold run
  rw [hname]
  rfl

/-! ## What files tell -/

/-- The progress that is reported on the files among some parts of a project. -/
def progressAmong (ts : List Project) : List Label := (Project.filesAmong ts).map Node.name

/-- The call edges of the files among some parts of a project. -/
def edgesAmong (ts : List Project) : List CallEdge :=
  ((Project.filesAmong ts).filterMap Node.source).flatMap Source.callEdges

/-- The problems of the files among some parts of a project. -/
def problemsAmong (s : Settings) (ts : List Project) : List FileProblem :=
  (Project.filesAmong ts).filterMap (Node.problem? s)

/-- In a project with a folder in it, what is told of the files without their ids is what is told of
the files before the folder, of those of a folder with the same content, and of those after it. -/
theorem filterMap_files_within {β : Type} {f : Node → Option β} (hf : ∀ m, f m.anon = f m)
    {project inner d : Project} {before after : List Project}
    (hsplit : project.preorder = before ++ d.preorder ++ after)
    (hfolder : d.label.kind = .folder) (hinner : inner.label.kind = .folder)
    (hsame : Tree.mapAll Node.anon inner.children = Tree.mapAll Node.anon d.children) :
    project.files.filterMap f = (Project.filesAmong before).filterMap f ++
      inner.files.filterMap f ++ (Project.filesAmong after).filterMap f := by
  have hfiles : project.files =
      Project.filesAmong before ++ d.files ++ Project.filesAmong after := by
    rw [← Project.filesAmong_preorder, ← Project.filesAmong_preorder, hsplit,
      Project.filesAmong_append, Project.filesAmong_append]
  have hwithin : inner.files.filterMap f = d.files.filterMap f := by
    obtain ⟨a, ts⟩ := d
    obtain ⟨b, us⟩ := inner
    change a.kind = .folder at hfolder
    change b.kind = .folder at hinner
    -- only the folders themselves differ in more than their ids
    have htop : (Project.files (.node a us)).filterMap f =
        (Project.files (.node a ts)).filterMap f :=
      filterMap_files_congr hf (congrArg (Tree.node a.anon) hsame)
    rw [Project.files_folder hfolder, Project.files_folder hfolder] at htop
    rw [Project.files_folder hinner, Project.files_folder hfolder, htop]
  rw [hfiles, hwithin, List.filterMap_append, List.filterMap_append]

/-- From a folder of a scan another scan can start, if the path of the folder is a text or says
nothing. Up to ids it finds what the larger scan found in the folder. Its progress, its edges and
its problems stand in those of the larger scan without a gap, between those of the files that come
before the folder and of the files that come after it. From any other path no scan can start. -/
theorem run_from_folder (s : Settings) (p : Provider) (start : Label) (scan : Scan) (d : Project)
    (before rest : List Project) (identify : String → String)
    (hrun : (run s p start).result = .ok scan)
    (hd : scan.project.preorder = before ++ d :: rest) (hfolder : d.label.kind = .folder) :
    (d.label.path.isVoid = true ∨ d.label.path.isText = true →
      ∃ inner after, (run (s.identifiedBy identify) p d.label.path).result = .ok inner ∧
        Tree.mapAll Node.anon inner.project.children = Tree.mapAll Node.anon d.children ∧
        scan.project.preorder = before ++ d.preorder ++ after ∧
        (run s p start).progress = progressAmong before ++
          (run (s.identifiedBy identify) p d.label.path).progress ++ progressAmong after ∧
        scan.edges = edgesAmong before ++ inner.edges ++ edgesAmong after ∧
        scan.problems = problemsAmong s before ++ inner.problems ++ problemsAmong s after) ∧
    (d.label.path.isVoid = false → d.label.path.isText = false →
      (run (s.identifiedBy identify) p d.label.path).result =
        .error (.label (.notText d.label.path))) := by
  refine ⟨fun hpath => ?_, fun hvoid htext => congrArg Run.result (run_of_notText hvoid htext)⟩
  obtain ⟨name, hname⟩ := exists_startName hpath
  have hmem : d ∈ scan.project.preorder := by
    rw [hd]
    exact List.mem_append_right _ List.mem_cons_self
  obtain ⟨inner, hinner, hroot, hsame⟩ := exists_run_within identify hrun hmem hfolder hname
  obtain ⟨after, hsplit⟩ := Tree.exists_after_of_preorder _ hd
  refine ⟨inner, after, hinner, hsame, hsplit, ?_, ?_, ?_⟩
  · have hnames := filterMap_files_within (f := some ∘ Node.name) (fun _ => rfl) hsplit hfolder
      hroot hsame
    rw [List.filterMap_eq_map] at hnames
    rw [progress_run hrun, progress_run hinner]
    exact hnames
  · have hsources := filterMap_files_within (f := Node.source) (fun _ => rfl) hsplit hfolder hroot
      hsame
    rw [edges_run hrun, edges_run hinner, hsources, List.flatMap_append, List.flatMap_append]
    rfl
  · rw [problems_run hrun, problems_run hinner]
    exact filterMap_files_within (f := Node.problem? s) (fun _ => rfl) hsplit hfolder hroot hsame

/-- Source files of at most twenty bytes, and nothing is left out. -/
def allSmallFiles : Settings := { smallFiles with rules := none }

/-- A project with a folder in a folder, and with files before, in and after each of them. -/
def nestedFolders : Provider :=
  .ofTables
    [("", [⟨.file, .text "main.ts", .text "main.ts", .null⟩,
        ⟨.folder, .text "lib", .text "lib", .null⟩,
        ⟨.file, .text "notes.md", .text "notes.md", .null⟩]),
      ("lib", [⟨.file, .text "large.js", .text "lib/large.js", .null⟩,
        ⟨.folder, .text "deep", .text "lib/deep", .null⟩,
        ⟨.file, .text "last.ts", .text "lib/last.ts", .text "main.ts"⟩]),
      ("lib/deep", [⟨.file, .text "broken.js", .text "lib/deep/broken.js", .null⟩,
        ⟨.file, .text "more.ts", .text "lib/deep/more.ts", .text "main.ts"⟩])]
    [("main.ts", "function f()\x7bg()\x7d"), ("lib/deep/broken.js", "("),
      ("lib/large.js", "// more than is allowed")]

theorem run_nestedFolders :
    ∃ scan d before rest, (run allSmallFiles nestedFolders (.text "")).result = .ok scan ∧
      scan.project.preorder = before ++ d :: rest ∧ d.label.kind = .folder ∧
      d.label.path = .text "lib/deep" ∧ (Project.filesAmong before).map Node.path =
        [.text "main.ts", .text "lib/large.js"] := by
  have hgives := (run_gives_iff allSmallFiles nestedFolders (.text "") _ _).2
    ⟨_, _, _, _, _, rfl, rfl, rfl,
      .file rfl rfl (.fetched rfl rfl rfl) (.folder rfl rfl rfl
        (.file rfl rfl (.fetched rfl rfl rfl) (.folder rfl rfl rfl
          (.file rfl rfl (.fetched rfl rfl rfl) (.file rfl rfl (.fetched rfl rfl rfl) .nil))
          (.file rfl rfl (.fetched rfl rfl rfl) .nil)))
        (.file rfl rfl (.plain rfl rfl) .nil)), rfl, rfl⟩
  exact ⟨_, _, [_, _, _, _], _, congrArg Run.result hgives, rfl, rfl, rfl, rfl⟩

/-- The inner folder of the nested project is scanned by itself, and what it tells stands between
what the files before it and those after it tell. -/
theorem run_from_folder_nested :
    ∃ scan d before rest inner after,
      (run allSmallFiles nestedFolders (.text "")).result = .ok scan ∧
      scan.project.preorder = before ++ d :: rest ∧ d.label.kind = .folder ∧
      (Project.filesAmong before).map Node.path = [.text "main.ts", .text "lib/large.js"] ∧
      (run (allSmallFiles.identifiedBy fun _ => "") nestedFolders (.text "lib/deep")).result =
        .ok inner ∧
      Tree.mapAll Node.anon inner.project.children = Tree.mapAll Node.anon d.children ∧
      scan.project.preorder = before ++ d.preorder ++ after ∧
      (run allSmallFiles nestedFolders (.text "")).progress = progressAmong before ++
        (run (allSmallFiles.identifiedBy fun _ => "") nestedFolders (.text "lib/deep")).progress ++
          progressAmong after ∧
      scan.edges = edgesAmong before ++ inner.edges ++ edgesAmong after ∧
      scan.problems = problemsAmong allSmallFiles before ++ inner.problems ++
        problemsAmong allSmallFiles after := by
  obtain ⟨scan, d, before, rest, hrun, hd, hfolder, hpath, hbefore⟩ := run_nestedFolders
  obtain ⟨hscans, -⟩ := run_from_folder allSmallFiles nestedFolders (.text "") scan d before rest
    (fun _ => "") hrun hd hfolder
  rw [hpath] at hscans
  obtain ⟨inner, after, hinner⟩ := hscans (.inr rfl)
  exact ⟨scan, d, before, rest, inner, after, hrun, hd, hfolder, hbefore, hinner⟩

/-- A repository with a folder that has a number as its path. -/
def numberedWeb : Web :=
  .ofReplies
    [("/repos/o/r/contents/", .answer 200 (.json (.list [.object [("type", .text "dir"),
        ("name", .text "d"), ("path", .int 5)]]))),
      ("/repos/o/r/contents/5", .answer 200 (.json (.list [])))]

/-- The folder with a number as its path is scanned within its repository, and no scan can start
from it. -/
theorem numbered_folder_is_no_start :
    ∃ scan d, (run allSmallFiles (.ofRepository numberedWeb ⟨"o", "r"⟩) (.text "")).result =
        .ok scan ∧
      d ∈ scan.project.preorder ∧ d.label.kind = .folder ∧ d.label.path = .int 5 ∧
      (run allSmallFiles (.ofRepository numberedWeb ⟨"o", "r"⟩) (.int 5)).result =
        .error (.label (.notText (.int 5))) := by
  have hgives := (run_gives_iff allSmallFiles (.ofRepository numberedWeb ⟨"o", "r"⟩) (.text "")
    _ _).2 ⟨_, _, _, _, _, rfl, rfl, rfl, .folder rfl rfl rfl .nil .nil, rfl, rfl⟩
  refine ⟨_, _, congrArg Run.result hgives, List.mem_cons_of_mem _ List.mem_cons_self, rfl, rfl, ?_⟩
  exact congrArg Run.result (run_of_notText rfl rfl)

end Scan

end CodeAtlas
