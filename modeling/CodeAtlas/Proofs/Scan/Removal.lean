-- Scans of a disk before and after a file is removed. The second scan gathers what the first one
-- gathered, without the node of the file and without its problems.
import CodeAtlas.Proofs.Project.Files
import CodeAtlas.Proofs.Scan.OnDisk

namespace CodeAtlas.Scan

open Disk (IsName AreNames locate)

variable {s : Settings} {p : Provider} {e : Entry} {events : List Event} {h : Harvest}

/-! ## Folders of a scan -/

/-- The path leads to the folder at `start` or to something below it. -/
def Below (start path : List String) : Prop :=
  ∃ names, AreNames names ∧ path = start ++ names

variable {start path gone : List String}

theorem below_refl (start : List String) : Below start start :=
  ⟨[], Disk.areNames_nil, (List.append_nil start).symm⟩

theorem Below.snoc (hpath : Below start path) {name : String} (hname : IsName name) :
    Below start (path ++ [name]) := by
  obtain ⟨names, hnames, rfl⟩ := hpath
  exact ⟨names ++ [name], hnames.append hname.singleton, List.append_assoc _ _ _⟩

theorem Below.areComponents (hstart : Path.AreComponents start) (hpath : Below start path) :
    Path.AreComponents path := by
  obtain ⟨names, hnames, rfl⟩ := hpath
  exact hstart.append hnames.areComponents

/-- Different paths below a folder lead to different places. -/
theorem Below.locate_eq_iff (hpath : Below start path) (hgone : Below start gone)
    (root : List String) : locate (root ++ path) = locate (root ++ gone) ↔ path = gone := by
  obtain ⟨names, hnames, rfl⟩ := hpath
  obtain ⟨names', hnames', rfl⟩ := hgone
  rw [← List.append_assoc, ← List.append_assoc, Disk.locate_append_names hnames,
    Disk.locate_append_names hnames', List.append_cancel_left_eq, List.append_cancel_left_eq]

/-- What lies at a place in a folder is told by its path. -/
theorem Below.locate_snoc_iff (hstart : Path.AreComponents start) (hpath : Below start path)
    (hgone : Below start gone) (root : List String) {name : String} (hname : IsName name) :
    locate (root ++ path) ++ [name] = locate (root ++ gone) ↔
      Json.text (Path.render (path ++ [name])) = .text (Path.render gone) := by
  have hsnoc := hpath.snoc hname
  have hplace : locate (root ++ path) ++ [name] = locate (root ++ (path ++ [name])) := by
    rw [← List.append_assoc, Disk.locate_append_names hname.singleton]
  rw [hplace, hsnoc.locate_eq_iff hgone]
  constructor
  · intro heq
    rw [heq]
  · intro heq
    have hrender := Json.text.inj heq
    exact Path.render_injective (hsnoc.areComponents hstart) (hgone.areComponents hstart) hrender

/-! ## Files -/

theorem Takes.of_fetch {p' : Provider} (htakes : Takes s p e events h)
    (hfetch : ∀ text, p.textOf e.target = .ok text → p'.textOf e.target = .ok text) :
    Takes s p' e events h := by
  cases htakes with
  | plain hname hdialect => exact .plain hname hdialect
  | source hname hdialect hok => exact .source hname hdialect (hfetch _ hok)

theorem Takes.problem_path (htakes : Takes s p e events h) :
    ∀ r ∈ h.problems, r.path = e.path := by
  intro r hr
  cases htakes with
  | plain => cases hr
  | source =>
    obtain ⟨problem, -, rfl⟩ := List.mem_map.1 hr
    rfl

/-! ## Harvests -/

/-- The second harvest is the first one without the file at a path. -/
structure Pruned (gone : Label) (h h' : Harvest) : Prop where
  nodes : h'.nodes = Tree.pruneAll (fun n => !n.isFileAt gone) h.nodes
  problems : h'.problems = h.problems.filter fun r => r.path ≠ gone

theorem Pruned.append {gone : Label} {a a' b b' : Harvest} (ha : Pruned gone a a')
    (hb : Pruned gone b b') : Pruned gone (a ++ b) (a' ++ b') := by
  refine ⟨?_, ?_⟩
  · rw [Harvest.nodes_append, Harvest.nodes_append, Tree.pruneAll_append, ha.nodes, hb.nodes]
  · rw [Harvest.problems_append, Harvest.problems_append, List.filter_append, ha.problems,
      hb.problems]

theorem Pruned.folder {gone : Label} {h' : Harvest} (hp : Pruned gone h h') (s : Settings)
    (name path : Label) :
    Pruned gone ⟨[.node (folderNode s name path) h.nodes], h.edges, h.problems⟩
      ⟨[.node (folderNode s name path) h'.nodes], h'.edges, h'.problems⟩ := by
  refine ⟨?_, hp.problems⟩
  have hfolder : (folderNode s name path).isFileAt gone = false := by
    simp [Node.isFileAt, Node.isFile, folderNode]
  simp [Tree.pruneAll, Tree.prune, Tree.label, hfolder, hp.nodes]

/-- A file that is not the one at the path stays. -/
theorem Takes.pruned_self (htakes : Takes s p e events h) (hkind : e.kind = .file) {gone : Label}
    (hne : e.path ≠ gone) : Pruned gone h h := by
  obtain ⟨f, hnodes, htaken⟩ := htakes.takenFrom hkind
  have hkept : f.isFileAt gone = false := by
    simp [Node.isFileAt, htaken.isFileAt.2, hne]
  refine ⟨?_, ?_⟩
  · rw [hnodes, Tree.pruneAll_leaf]
    simp [hkept]
  · refine (List.filter_eq_self.2 ?_).symm
    intro r hr
    simp [htakes.problem_path r hr, hne]

/-- Nothing is left of the file at the path. -/
theorem Takes.pruned_empty (htakes : Takes s p e events h) (hkind : e.kind = .file) :
    Pruned e.path h .empty := by
  obtain ⟨f, hnodes, htaken⟩ := htakes.takenFrom hkind
  have hdropped : f.isFileAt e.path = true := by
    simp [Node.isFileAt, htaken.isFileAt]
  refine ⟨?_, ?_⟩
  · rw [hnodes, Tree.pruneAll_leaf]
    simp [hdropped, Harvest.empty]
  · refine (List.filter_eq_nil_iff.2 ?_).symm
    intro r hr
    simp [htakes.problem_path r hr]

/-! ## The two scans -/

/-- What is gathered after the removal of the file at `gone`. -/
theorem gathers_removeFile {disk : Disk} (hdisk : disk.WellFormed) {root : List String}
    (hstart : Path.AreComponents start) (hgone : Below start gone) {n : Nat} {es : List Entry}
    (hgathers : Gathers s (.ofDisk disk root) n es events h) (hpath : Below start path)
    (hes : EntriesAt path es) :
    ∃ events' h', Gathers s (.ofDisk (disk.removeFile (locate (root ++ gone))) root) n
        (es.filter fun e => !e.isFileAt (.text (Path.render gone))) events' h' ∧
      Pruned (.text (Path.render gone)) h h' := by
  induction hgathers generalizing path with
  | nil => exact ⟨[], .empty, .nil, rfl, rfl⟩
  | @leftOut n e es later rest hexcluded _ ih =>
    obtain ⟨events', h', hrest, hpruned⟩ := ih hpath hes.tail
    rw [List.filter_cons]
    split
    · exact ⟨_, h', .leftOut hexcluded hrest, hpruned⟩
    · exact ⟨events', h', hrest, hpruned⟩
  | @other n e es later rest label hkept hkind _ ih =>
    obtain ⟨events', h', hrest, hpruned⟩ := ih hpath hes.tail
    have hstays : e.isFileAt (.text (Path.render gone)) = false := by
      simp [Entry.isFileAt, hkind]
    rw [List.filter_cons_of_pos (by simp [hstays])]
    exact ⟨events', h', .other hkept hkind hrest, hpruned⟩
  | @file n e es events later h rest hkept hkind htakes _ ih =>
    obtain ⟨events', h', hrest, hpruned⟩ := ih hpath hes.tail
    obtain ⟨name, hlies⟩ := hes.lies e List.mem_cons_self
    by_cases heq : e.path = .text (Path.render gone)
    · rw [List.filter_cons_of_neg (by simp [Entry.isFileAt, hkind, heq])]
      refine ⟨events', h', hrest, ?_⟩
      have hempty := htakes.pruned_empty hkind
      rw [heq] at hempty
      exact hempty.append hpruned
    · rw [List.filter_cons_of_pos (by simp [Entry.isFileAt, heq])]
      -- the text is still there, since the file lies at another place
      have hbelow := hpath.snoc hlies.isName
      have hcomponents := hbelow.areComponents hstart
      have hplace : locate (root ++ (path ++ [name])) ≠ locate (root ++ gone) := by
        intro hsame
        rw [hbelow.locate_eq_iff hgone] at hsame
        exact heq (by rw [hlies.path_eq, hsame])
      have hfetch : ∀ text, (Provider.ofDisk disk root).textOf e.target = .ok text →
          (Provider.ofDisk (disk.removeFile (locate (root ++ gone))) root).textOf e.target =
            .ok text := by
        intro text htext
        rw [hlies.target_eq, hlies.path_eq, Provider.textOf_render hcomponents] at htext ⊢
        exact Provider.textAt_removeFile hdisk hplace htext
      refine ⟨_, _, .file hkept hkind (htakes.of_fetch hfetch) hrest, ?_⟩
      exact (htakes.pruned_self hkind heq).append hpruned
  | @folder n e es inside events later h rest hkept hkind hlist _ _ ihinside ih =>
    obtain ⟨events', h', hrest, hpruned⟩ := ih hpath hes.tail
    obtain ⟨name, hlies⟩ := hes.lies e List.mem_cons_self
    have hcomponents := hpath.areComponents hstart
    have hbelow := hpath.snoc hlies.isName
    rw [hlies.listFolder hcomponents] at hlist
    have hentries := entriesAt_of_listFolder hdisk hlist
    obtain ⟨events'', h'', hinside, hpruned'⟩ := ihinside hbelow hentries
    have hlist' := Provider.listFolder_removeFile hdisk
      (fun other hother => hbelow.locate_snoc_iff hstart hgone root hother) hlist
    rw [← hlies.listFolder hcomponents] at hlist'
    rw [List.filter_cons_of_pos (by simp [Entry.isFileAt, hkind])]
    refine ⟨_, _, .folder hkept hkind hlist' hinside hrest, ?_⟩
    exact (hpruned'.folder s e.name e.path).append hpruned

theorem isFile_label_of_run {path : Label} {scan : Scan} (hrun : (run s p path).result = .ok scan) :
    scan.project.label.isFile = false := by
  obtain ⟨n, name, es, later, harvest, -, -, -, -, -, rfl⟩ :=
    (run_gives_iff s p path _ scan).1 (Run.gives_of_result hrun)
  rfl

/-- The scan after the removal of a file that has a problem. -/
theorem run_removeFile {disk : Disk} (hdisk : disk.WellFormed) {root : List String} {path : Label}
    {scan : Scan} (hrun : (run s (.ofDisk disk root) path).result = .ok scan) {r : FileProblem}
    (hr : r ∈ scan.problems) :
    ∃ scan',
      (run s (.ofDisk (disk.removeFile (locate (root ++ Path.components r.path.shown))) root)
        path).result = .ok scan' ∧
      scan'.project = scan.project.prune (fun n => !n.isFileAt r.path) ∧
      scan'.problems = scan.problems.filter fun other => other.path ≠ r.path := by
  obtain ⟨n, name, es, later, harvest, hdepth, hname, hlist, hgathers, -, rfl⟩ :=
    (run_gives_iff s _ path _ scan).1 (Run.gives_of_result hrun)
  obtain ⟨start, hstart, hlists⟩ := Provider.exists_start hlist
  rw [hlists] at hlist
  have hes := entriesAt_of_listFolder hdisk hlist
  -- the file with the problem lies below the folder that the scan starts from
  obtain ⟨gone, hgone, hpath⟩ : ∃ gone, Below start gone ∧ r.path = .text (Path.render gone) := by
    obtain ⟨f, hf, -, hrecord⟩ := (agrees_of_gathers hgathers).exists_file hr
    obtain ⟨t, ht, hf⟩ := List.mem_flatMap.1 hf
    have hnode := List.mem_flatMap.2 ⟨t, ht, (Project.mem_files.1 hf).1⟩
    obtain ⟨e, -, first, hlies, below, hbelow, hfpath⟩ :=
      (spread_of_gathers hdisk hgathers hstart hes).under f hnode
    have hnames := hlies.isName.cons hbelow
    exact ⟨_, ⟨first :: below, hnames, rfl⟩, hrecord.symm.trans hfpath⟩
  have hcomponents : Path.components r.path.shown = gone := by
    rw [hpath]
    exact Path.components_render (hgone.areComponents hstart)
  obtain ⟨events', h', hgathers', hpruned⟩ :=
    gathers_removeFile hdisk hstart hgone hgathers (below_refl start) hes
  have hlist' := Provider.listFolder_removeFile hdisk
    (fun other hother => (below_refl start).locate_snoc_iff hstart hgone root hother) hlist
  rw [hcomponents, hpath]
  have hgives :=
    (run_gives_iff s (.ofDisk (disk.removeFile (locate (root ++ gone))) root) path _ _).2
      ⟨n, name, _, events', h', ?_, hname, ?_, hgathers', rfl, rfl⟩
  · refine ⟨_, congrArg Run.result hgives, ?_, hpruned.problems⟩
    rw [hpruned.nodes, Tree.prune]
  · rw [← hdepth]
    exact congrArg (· + 1) (Disk.depth_removeFile disk _)
  · rw [hlists]
    exact hlist'

end CodeAtlas.Scan
