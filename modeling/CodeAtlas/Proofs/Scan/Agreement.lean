-- The laws of what a scan returns. Its tree, read in order, tells everything else: the progress
-- that was reported, the call edges, and which files have a problem and which one.
import CodeAtlas.Proofs.Project.Files
import CodeAtlas.Proofs.Scan.Gathering
import Mathlib.Data.List.Forall2

namespace CodeAtlas

namespace Node

/-- The dialect that the name of a file asks for. -/
def dialect? (n : Node) : Option Dialect := n.name.text?.bind Dialect.ofPath?

/-- A source file that was not read. -/
def isUnread (n : Node) : Bool := n.dialect?.isSome && n.source.isNone

end Node

namespace Scan

variable {s : Settings} {p : Provider} {n : Nat} {e : Entry} {es : List Entry}
  {events : List Event} {h : Harvest}

/-! ## What is said of a file -/

/-- The record of a source file that was not read. It has no location exactly if the file is too
large; otherwise it has the location and the detail of the fault in the text. -/
structure Records (s : Settings) (f : Node) (r : FileProblem) : Prop where
  path : r.path = f.path
  problem : ∃ d text, f.dialect? = some d ∧ f.text = some text ∧
    (r.problem.location? = none ↔ s.limit < byteCount text) ∧
    (s.limit < byteCount text → r.problem = .tooLarge (byteCount text)) ∧
    (byteCount text ≤ s.limit → ∃ fault, Source.read s.grammar d text = .error fault ∧
      r.problem.location? = some fault.location ∧ r.problem.message = fault.detail.message)

/-- The provider lists the file as this entry of the folder that the file lies in. -/
def Listed (p : Provider) (project : Project) (f : Node) (e : Entry) : Prop :=
  ∃ (folder : Node) (ts : List Project) (es : List Entry),
    .node folder ts ∈ project.preorder ∧ f ∈ ts.map Tree.label ∧ p.list folder.path = .ok es ∧
      e ∈ es ∧ e.kind = .file ∧ e.name = f.name ∧ e.path = f.path

/-- A file has a text exactly if it is a source file, and the text is the one that was fetched for
its entry. It has a source exactly if the text is not too large and the phrase that covers it is
not faulty, and then the source is that phrase with the bytes of the text. -/
structure ReadAsListed (s : Settings) (p : Provider) (project : Project) (f : Node) : Prop where
  text_iff : f.text.isSome ↔ f.dialect?.isSome
  fetched : ∀ text, f.text = some text →
    ∃ e, Listed p project f e ∧ p.textOf e.target = .ok text
  source_iff : f.source.isSome ↔ ∃ d text, f.dialect? = some d ∧ f.text = some text ∧
    byteCount text ≤ s.limit ∧ (s.grammar.phrase d text).label.faulty = false
  source_eq : ∀ source, f.source = some source → ∃ d text, f.dialect? = some d ∧
    f.text = some text ∧ source = ⟨d, Utf8.encode text.toList, s.grammar.phrase d text⟩

theorem source?_eq_some_iff (s : Settings) (d : Dialect) (text : String) (source : Source) :
    s.source? d text = some source ↔ byteCount text ≤ s.limit ∧
      (s.grammar.phrase d text).label.faulty = false ∧
      source = ⟨d, Utf8.encode text.toList, s.grammar.phrase d text⟩ := by
  unfold Settings.source? Source.read
  by_cases hsize : s.limit < byteCount text
  · simp [hsize, Int.not_le.2 hsize]
  · by_cases hfaulty : (s.grammar.phrase d text).label.faulty
    · simp [hsize, hfaulty, Except.toOption]
    · simp [hsize, hfaulty, Except.toOption, Int.not_lt.1 hsize, eq_comm]

theorem dialect?_sourceFile {name : String} (hname : e.name = .text name)
    (s : Settings) (d : Dialect) (text : String) :
    (sourceFile s e d text).dialect? = Dialect.ofPath? name := by
  simp [Node.dialect?, sourceFile, plainFile, hname, Json.text?]

theorem dialect?_plainFile {name : String} (hname : e.name = .text name)
    (s : Settings) : (plainFile s e).dialect? = Dialect.ofPath? name := by
  simp [Node.dialect?, plainFile, hname, Json.text?]

/-- The problem of a text is the record of its file. -/
theorem records_problem? {d : Dialect} {text : String} {problem : Problem}
    (hdialect : (sourceFile s e d text).dialect? = some d)
    (h : s.problem? d text = some problem) :
    Records s (sourceFile s e d text) ⟨e.path, problem⟩ := by
  refine ⟨rfl, d, text, hdialect, rfl, ?_⟩
  unfold Settings.problem? at h
  by_cases hsize : s.limit < byteCount text
  · rw [if_pos hsize] at h
    cases h
    refine ⟨by simp [Problem.location?, hsize], fun _ => rfl, fun hle => ?_⟩
    exact absurd hsize (Int.not_lt.2 hle)
  · rw [if_neg hsize] at h
    cases hread : Source.read s.grammar d text with
    | ok source => simp [hread] at h
    | error fault =>
      simp only [hread, Option.some.injEq] at h
      subst h
      refine ⟨by simp [Problem.location?, hsize], fun hlt => absurd hlt hsize, fun _ => ?_⟩
      exact ⟨fault, rfl, rfl, rfl⟩

/-! ## The invariant of a harvest -/

/-- What happened on the way and the edges and problems that were brought in are what the files
of the harvest, read in order, tell. -/
structure Agrees (s : Settings) (events : List Event) (h : Harvest) : Prop where
  progress : events.filterMap Event.progress? = (h.nodes.flatMap Project.files).map Node.name
  edges : h.edges = ((h.nodes.flatMap Project.files).filterMap Node.source).flatMap Source.callEdges
  problems : List.Forall₂ (Records s) ((h.nodes.flatMap Project.files).filter Node.isUnread)
    h.problems

theorem agrees_empty (s : Settings) : Agrees s [] .empty := ⟨rfl, rfl, .nil⟩

theorem Agrees.append {before after : List Event} {a b : Harvest}
    (ha : Agrees s before a) (hb : Agrees s after b) : Agrees s (before ++ after) (a ++ b) := by
  refine ⟨?_, ?_, ?_⟩
  · rw [List.filterMap_append, ha.progress, hb.progress, Harvest.nodes_append, List.flatMap_append,
      List.map_append]
  · rw [Harvest.edges_append, ha.edges, hb.edges, Harvest.nodes_append, List.flatMap_append,
      List.filterMap_append, List.flatMap_append]
  · rw [Harvest.nodes_append, List.flatMap_append, List.filter_append, Harvest.problems_append]
    exact List.rel_append ha.problems hb.problems

/-- An event that is no progress changes nothing. -/
theorem Agrees.cons (ha : Agrees s events h) {event : Event} (hevent : event.progress? = none) :
    Agrees s (event :: events) h := by
  refine ⟨?_, ha.edges, ha.problems⟩
  rw [List.filterMap_cons_none hevent]
  exact ha.progress

/-- A folder has the files of what lies in it. -/
theorem Agrees.folder (ha : Agrees s events h) (name path : Label) :
    Agrees s events ⟨[.node (folderNode s name path) h.nodes], h.edges, h.problems⟩ := by
  have hfiles : [Tree.node (folderNode s name path) h.nodes].flatMap Project.files =
      h.nodes.flatMap Project.files := by
    rw [List.flatMap_singleton, Project.files_folder rfl]
  refine ⟨?_, ?_, ?_⟩
  · rw [hfiles]
    exact ha.progress
  · rw [hfiles]
    exact ha.edges
  · rw [hfiles]
    exact ha.problems

theorem files_leaf {n : Node} (h : n.isFile = true) (edges : List CallEdge)
    (problems : List FileProblem) : (leaf n edges problems).nodes.flatMap Project.files = [n] := by
  simp [leaf, Project.files_node, h]

/-- A file is reported, and has its edges or its record. -/
theorem agrees_of_takes (htakes : Takes s p e events h) :
    Agrees s (.reached e.name :: events) h := by
  cases htakes with
  | plain hname hdialect =>
    have hread : (plainFile s e).isUnread = false := by
      simp [Node.isUnread, dialect?_plainFile hname, hdialect]
    refine ⟨?_, ?_, ?_⟩
    · rw [files_leaf rfl]
      rfl
    · rw [files_leaf rfl]
      rfl
    · rw [files_leaf rfl, List.filter_cons_of_neg (by simp [hread])]
      exact .nil
  | @source name text d hname hdialect hfetch =>
    have hfile : (sourceFile s e d text).isFile = true := rfl
    have hdialect' : (sourceFile s e d text).dialect? = some d := by
      rw [dialect?_sourceFile hname, hdialect]
    unfold sourceHarvest
    refine ⟨?_, ?_, ?_⟩
    · rw [files_leaf hfile]
      simp [Event.progress?, sourceFile, plainFile]
    · rw [files_leaf hfile]
      cases hsource : s.source? d text <;> simp [leaf, sourceFile, hsource]
    · rw [files_leaf hfile]
      cases hproblem : s.problem? d text with
      | none =>
        have hsource : s.source? d text ≠ none := by
          simp [Settings.source?_eq_none_iff, hproblem]
        rw [List.filter_cons_of_neg]
        · exact .nil
        · simp [Node.isUnread, sourceFile, hsource]
      | some problem =>
        have hsource : s.source? d text = none := by
          simp [Settings.source?_eq_none_iff, hproblem]
        rw [List.filter_cons_of_pos]
        · exact .cons (records_problem? hdialect' hproblem) .nil
        · simp [Node.isUnread, hdialect']
          simp [sourceFile, hsource]

/-- Whatever a scan gathers agrees with what it reports. -/
theorem agrees_of_gathers (hgathers : Gathers s p n es events h) : Agrees s events h := by
  induction hgathers with
  | nil => exact agrees_empty s
  | leftOut _ _ ih => exact ih.cons rfl
  | other _ _ _ ih => exact ih
  | file _ _ htakes _ ih => exact (agrees_of_takes htakes).append ih
  | folder _ _ _ _ _ ihinside ih => exact ((ihinside.folder _ _).cons rfl).append ih

theorem exists_of_mem_records {fs : List Node} {rs : List FileProblem}
    (h : List.Forall₂ (Records s) fs rs) {r : FileProblem} (hr : r ∈ rs) :
    ∃ f ∈ fs, Records s f r := by
  induction h with
  | nil => cases hr
  | @cons f r' fs rs hrecords _ ih =>
    rcases List.mem_cons.1 hr with rfl | hr
    · exact ⟨f, List.mem_cons_self, hrecords⟩
    · obtain ⟨f', hf', hrecords'⟩ := ih hr
      exact ⟨f', List.mem_cons_of_mem _ hf', hrecords'⟩

/-- A problem is the record of a source file that was not read. -/
theorem Agrees.exists_file (ha : Agrees s events h) {r : FileProblem} (hr : r ∈ h.problems) :
    ∃ f ∈ h.nodes.flatMap Project.files, f.isUnread = true ∧ f.path = r.path := by
  obtain ⟨f, hf, hrecords⟩ := exists_of_mem_records ha.problems hr
  obtain ⟨hfile, hunread⟩ := List.mem_filter.1 hf
  exact ⟨f, hfile, hunread, hrecords.path.symm⟩

/-! ## Where a file comes from -/

/-- The node is what becomes of the entry of a file. -/
def TakenFrom (s : Settings) (p : Provider) (e : Entry) (f : Node) : Prop :=
  e.kind = .file ∧ ∃ name, e.name = .text name ∧
    (Dialect.ofPath? name = none ∧ f = plainFile s e ∨
      ∃ d text, Dialect.ofPath? name = some d ∧ p.textOf e.target = .ok text ∧
        f = sourceFile s e d text)

theorem Takes.takenFrom (htakes : Takes s p e events h) (hkind : e.kind = .file) :
    ∃ f, h.nodes = [.node f []] ∧ TakenFrom s p e f := by
  cases htakes with
  | @plain name hname hdialect =>
    exact ⟨plainFile s e, rfl, hkind, name, hname, .inl ⟨hdialect, rfl⟩⟩
  | @source name text d hname hdialect hfetch =>
    exact ⟨sourceFile s e d text, rfl, hkind, name, hname, .inr ⟨d, text, hdialect, hfetch, rfl⟩⟩

/-- The node of a file is of one of the entries, or of an entry of a folder below. -/
def ComesFrom (s : Settings) (p : Provider) (es : List Entry) (ts : List Project) (t : Project) :
    Prop :=
  ∃ e, TakenFrom s p e t.label ∧
    (t ∈ ts ∧ e ∈ es ∨ ∃ (folder : Node) (inside : List Project) (listed : List Entry),
      .node folder inside ∈ Tree.preorderAll ts ∧ t ∈ inside ∧
        p.list folder.path = .ok listed ∧ e ∈ listed)

/-- More entries and more nodes do no harm. -/
theorem ComesFrom.mono {es' : List Entry} {ts ts' : List Project} {t : Project}
    (hcomes : ComesFrom s p es ts t) (hes : es ⊆ es') (hts : ts ⊆ ts') :
    ComesFrom s p es' ts' t := by
  obtain ⟨e, htaken, ⟨ht, he⟩ | ⟨folder, inside, listed, hfolder, ht, hlist, he⟩⟩ := hcomes
  · exact ⟨e, htaken, .inl ⟨hts ht, hes he⟩⟩
  · refine ⟨e, htaken, .inr ⟨folder, inside, listed, ?_, ht, hlist, he⟩⟩
    rw [Tree.preorderAll_eq_flatMap, List.mem_flatMap] at hfolder ⊢
    obtain ⟨u, hu, hmem⟩ := hfolder
    exact ⟨u, hts hu, hmem⟩

/-- Inside a folder, the entries are those that the provider lists for it. -/
theorem ComesFrom.folder {m : Node} {inside : List Entry} {ts : List Project} {t : Project}
    (hlist : p.list m.path = .ok inside) (hcomes : ComesFrom s p inside ts t) :
    ComesFrom s p es [.node m ts] t := by
  obtain ⟨e, htaken, ⟨ht, he⟩ | ⟨folder, us, listed, hfolder, ht, hlisted, he⟩⟩ := hcomes
  · refine ⟨e, htaken, .inr ⟨m, ts, inside, ?_, ht, hlist, he⟩⟩
    simp [Tree.preorderAll, Tree.preorder]
  · refine ⟨e, htaken, .inr ⟨folder, us, listed, ?_, ht, hlisted, he⟩⟩
    simp [Tree.preorderAll, Tree.preorder, hfolder]

theorem comesFrom_of_gathers (hgathers : Gathers s p n es events h) :
    ∀ t ∈ Tree.preorderAll h.nodes, t.label.isFile = true → ComesFrom s p es h.nodes t := by
  induction hgathers with
  | nil => simp [Harvest.empty, Tree.preorderAll]
  | leftOut _ _ ih =>
    intro t ht hfile
    exact (ih t ht hfile).mono (List.subset_cons_self _ _) (List.Subset.refl _)
  | other _ _ _ ih =>
    intro t ht hfile
    exact (ih t ht hfile).mono (List.subset_cons_self _ _) (List.Subset.refl _)
  | @file n e es events later h rest _ hkind htakes _ ih =>
    intro t ht hfile
    obtain ⟨f, hnodes, htaken⟩ := htakes.takenFrom hkind
    rw [Harvest.nodes_append, Tree.preorderAll_append, List.mem_append] at ht
    rcases ht with ht | ht
    · have heq : t = .node f [] := by
        simpa [hnodes, Tree.preorderAll, Tree.preorder] using ht
      subst heq
      exact ⟨e, htaken, .inl ⟨by simp [hnodes], List.mem_cons_self⟩⟩
    · exact (ih t ht hfile).mono (List.subset_cons_self _ _) (List.subset_append_right _ _)
  | @folder n e es inside events later h rest _ _ hlist _ _ ihinside ih =>
    intro t ht hfile
    rw [Harvest.nodes_append, Tree.preorderAll_append, List.mem_append] at ht
    rcases ht with ht | ht
    · have hbelow : t ∈ Tree.preorderAll h.nodes := by
        -- the folder itself is no file
        simp only [Tree.preorderAll, Tree.preorder, List.append_nil, List.mem_cons] at ht
        rcases ht with rfl | ht
        · exact absurd hfile (by simp [Tree.label, folderNode, Node.isFile])
        · exact ht
      have hcomes : ComesFrom s p (e :: es) [.node (folderNode s e.name e.path) h.nodes] t :=
        .folder hlist (ihinside t hbelow hfile)
      exact hcomes.mono (List.Subset.refl _) (List.subset_append_left _ _)
    · exact (ih t ht hfile).mono (List.subset_cons_self _ _) (List.subset_append_right _ _)

/-- A file that is taken from a listed entry was read as it was listed. -/
theorem readAsListed_of_takenFrom {project : Project} {f : Node} (htaken : TakenFrom s p e f)
    (hlisted : e.name = f.name → e.path = f.path → Listed p project f e) :
    ReadAsListed s p project f := by
  obtain ⟨_, name, hname, ⟨hdialect, rfl⟩ | ⟨d, text, hdialect, hfetch, rfl⟩⟩ := htaken
  · have hnone := dialect?_plainFile hname s
    rw [hdialect] at hnone
    refine ⟨?_, ?_, ?_, ?_⟩
    · rw [hnone]
      exact Iff.rfl
    · intro text htext
      cases htext
    · simp [plainFile]
    · intro source hsource
      cases hsource
  · have hsome := dialect?_sourceFile hname s d text
    rw [hdialect] at hsome
    have hsource := source?_eq_some_iff s d text
    refine ⟨?_, ?_, ?_, ?_⟩
    · rw [hsome]
      exact Iff.rfl
    · intro text' htext
      cases htext
      exact ⟨e, hlisted rfl rfl, hfetch⟩
    · rw [Option.isSome_iff_exists]
      constructor
      · rintro ⟨source, h⟩
        obtain ⟨hsize, hfine, -⟩ := (hsource source).1 h
        exact ⟨d, text, hsome, rfl, hsize, hfine⟩
      · rintro ⟨d', text', hd, ht, hsize, hfine⟩
        cases ht
        cases hsome.symm.trans hd
        exact ⟨_, (hsource _).2 ⟨hsize, hfine, rfl⟩⟩
    · intro source h
      exact ⟨d, text, hsome, rfl, ((hsource source).1 h).2.2⟩

/-- Every file of a project comes from an entry of the folder that it lies in. -/
theorem listed_of_comesFrom {root : Node} {ts : List Project} {t : Project}
    (hlist : p.list root.path = .ok es) (hcomes : ComesFrom s p es ts t) :
    ReadAsListed s p (.node root ts) t.label := by
  obtain ⟨e, htaken, hplace⟩ := hcomes
  refine readAsListed_of_takenFrom htaken fun hname hpath => ?_
  rcases hplace with ⟨ht, he⟩ | ⟨folder, inside, listed, hfolder, ht, hlisted, he⟩
  · refine ⟨root, ts, es, List.mem_cons_self, List.mem_map_of_mem ht, hlist, he, htaken.1, ?_⟩
    exact ⟨hname, hpath⟩
  · refine ⟨folder, inside, listed, List.mem_cons_of_mem _ hfolder, List.mem_map_of_mem ht, hlisted,
      he, htaken.1, ?_⟩
    exact ⟨hname, hpath⟩

/-! ## What a scan returns -/

theorem agrees_of_run {path : Label} {scan : Scan} (hrun : (run s p path).result = .ok scan) :
    Agrees s (run s p path).events ⟨[scan.project], scan.edges, scan.problems⟩ := by
  obtain ⟨n, name, es, later, harvest, _, _, _, hgathers, hevents, rfl⟩ :=
    (run_gives_iff s p path _ scan).1 (Run.gives_of_result hrun)
  rw [hevents]
  exact ((agrees_of_gathers hgathers).folder name path).cons rfl

theorem readAsListed_of_run {path : Label} {scan : Scan}
    (hrun : (run s p path).result = .ok scan) :
    ∀ f ∈ scan.project.files, ReadAsListed s p scan.project f := by
  obtain ⟨n, name, es, later, harvest, _, _, hlist, hgathers, _, rfl⟩ :=
    (run_gives_iff s p path _ scan).1 (Run.gives_of_result hrun)
  intro f hf
  obtain ⟨hnode, hfile⟩ := Project.mem_files.1 hf
  obtain ⟨t, ht, rfl⟩ := List.mem_map.1 hnode
  rcases List.mem_cons.1 ht with rfl | ht
  · exact absurd hfile (by simp [Tree.label, folderNode, Node.isFile])
  · exact listed_of_comesFrom hlist (comesFrom_of_gathers hgathers t ht hfile)

/-- Everything a scan returns can be read off its tree: the progress is the names of the files,
the edges are the edges of the sources, there is one record for each source file that was not
read, and every file is as it was listed and fetched. -/
theorem run_agrees_with_files (s : Settings) (p : Provider) (path : Label) (scan : Scan)
    (h : (run s p path).result = .ok scan) :
    (run s p path).progress = scan.project.files.map Node.name ∧
      scan.edges = (scan.project.parsedFiles.filterMap Node.source).flatMap Source.callEdges ∧
      List.Forall₂ (Records s) (scan.project.files.filter Node.isUnread) scan.problems ∧
      ∀ f ∈ scan.project.files, ReadAsListed s p scan.project f := by
  obtain ⟨hprogress, hedges, hproblems⟩ := agrees_of_run h
  rw [List.flatMap_singleton] at hprogress hedges hproblems
  rw [Project.filterMap_source_parsedFiles]
  exact ⟨hprogress, hedges, hproblems, readAsListed_of_run h⟩

/-- A short text with a call in it. -/
def callReading : Reading where
  dialect := .typescript
  text := "function f()\x7bg()\x7d"
  rows :=
    [⟨0, "program", 0, ⟨0, 0⟩, 17, true, false, false, false, none⟩,
      ⟨1, "function_declaration", 0, ⟨0, 0⟩, 17, true, false, false, false, none⟩,
      ⟨2, "function", 0, ⟨0, 0⟩, 8, false, false, false, false, none⟩,
      ⟨2, "identifier", 9, ⟨0, 9⟩, 10, true, false, false, false, some .name⟩,
      ⟨2, "formal_parameters", 10, ⟨0, 10⟩, 12, true, false, false, false, none⟩,
      ⟨3, "(", 10, ⟨0, 10⟩, 11, false, false, false, false, none⟩,
      ⟨3, ")", 11, ⟨0, 11⟩, 12, false, false, false, false, none⟩,
      ⟨2, "statement_block", 12, ⟨0, 12⟩, 17, true, false, false, false, none⟩,
      ⟨3, "\x7b", 12, ⟨0, 12⟩, 13, false, false, false, false, none⟩,
      ⟨3, "expression_statement", 13, ⟨0, 13⟩, 16, true, false, false, false, none⟩,
      ⟨4, "call_expression", 13, ⟨0, 13⟩, 16, true, false, false, false, none⟩,
      ⟨5, "identifier", 13, ⟨0, 13⟩, 14, true, false, false, false, some .function⟩,
      ⟨5, "arguments", 14, ⟨0, 14⟩, 16, true, false, false, false, some .arguments⟩,
      ⟨6, "(", 14, ⟨0, 14⟩, 15, false, false, false, false, none⟩,
      ⟨6, ")", 15, ⟨0, 15⟩, 16, false, false, false, false, none⟩,
      ⟨3, "\x7d", 16, ⟨0, 16⟩, 17, false, false, false, false, none⟩]

/-- A text that breaks off. -/
def brokenReading : Reading where
  dialect := .javascript
  text := "("
  rows :=
    [⟨0, "program", 0, ⟨0, 0⟩, 1, true, false, false, true, none⟩,
      ⟨1, "ERROR", 0, ⟨0, 0⟩, 1, true, false, true, true, none⟩,
      ⟨2, "(", 0, ⟨0, 0⟩, 1, false, false, false, false, none⟩]

/-- Source files of at most twenty bytes, and no dependencies. -/
def smallFiles : Settings where
  grammar := .ofReadings [callReading, brokenReading]
  rules := some ⟨fun path => path = "node_modules/"⟩
  limit := 20
  identify := id

/-- A project with a source file that is read, one that has a fault, one that is too large and a
file that is no source file. -/
def mixedFolders : Provider :=
  .ofTables
    [("", [⟨.folder, .text "lib", .text "lib", .null⟩,
        ⟨.file, .text "main.ts", .text "main.ts", .null⟩,
        ⟨.folder, .text "node_modules", .text "node_modules", .null⟩,
        ⟨.file, .text "notes.md", .text "notes.md", .null⟩]),
      ("lib", [⟨.file, .text "broken.js", .text "lib/broken.js", .text "blob"⟩,
        ⟨.file, .text "large.js", .text "lib/large.js", .null⟩])]
    [("main.ts", "function f()\x7bg()\x7d"), ("blob", "("),
      ("lib/large.js", "// more than is allowed")]

/-- The mixed project is scanned, and what the scan returns agrees with its files. -/
theorem run_agrees_with_files_mixed :
    ∃ scan, (run smallFiles mixedFolders (.text "")).result = .ok scan ∧
      scan.problems = [⟨.text "lib/broken.js", .faulty ⟨⟨1, 0⟩, .unexpected⟩⟩,
        ⟨.text "lib/large.js", .tooLarge 23⟩] ∧
      (run smallFiles mixedFolders (.text "")).progress = scan.project.files.map Node.name ∧
      scan.edges = (scan.project.parsedFiles.filterMap Node.source).flatMap Source.callEdges ∧
      List.Forall₂ (Records smallFiles) (scan.project.files.filter Node.isUnread) scan.problems ∧
      ∀ f ∈ scan.project.files, ReadAsListed smallFiles mixedFolders scan.project f := by
  have hproblems : (run smallFiles mixedFolders (.text "")).result.toOption.map Scan.problems =
      some [⟨.text "lib/broken.js", .faulty ⟨⟨1, 0⟩, .unexpected⟩⟩,
        ⟨.text "lib/large.js", .tooLarge 23⟩] := by
    decide +kernel
  cases h : (run smallFiles mixedFolders (.text "")).result with
  | error e =>
    rw [h] at hproblems
    cases hproblems
  | ok scan =>
    rw [h] at hproblems
    exact ⟨scan, rfl, Option.some.inj hproblems, run_agrees_with_files _ _ _ scan h⟩

end Scan

end CodeAtlas
