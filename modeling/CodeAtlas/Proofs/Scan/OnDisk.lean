-- Scans of a folder on a disk. A node lies under the name of the entry it comes from, so that its
-- path is a text and no two nodes have the same one. So a source file has the text of the bytes at
-- its path, and one record if it was not read.
import CodeAtlas.Proofs.Disk.Listing
import CodeAtlas.Proofs.Project.Files
import CodeAtlas.Proofs.Scan.Agreement

namespace CodeAtlas.Scan

open Disk (IsName AreNames)

variable {s : Settings} {p : Provider} {n : Nat} {e : Entry} {es : List Entry}
  {events : List Event} {h : Harvest}

/-! ## The shape of a scanned project -/

theorem TakenFrom.isFileAt {f : Node} (htaken : TakenFrom s p e f) :
    f.isFile = true ∧ f.path = e.path := by
  obtain ⟨_, name, _, ⟨_, rfl⟩ | ⟨d, text, _, _, rfl⟩⟩ := htaken
  · exact ⟨rfl, rfl⟩
  · exact ⟨rfl, rfl⟩

/-- Nothing lies below a file. -/
theorem children_of_gathers (hgathers : Gathers s p n es events h) :
    ∀ t ∈ Tree.preorderAll h.nodes, t.label.isFile = true → t.children = [] := by
  induction hgathers with
  | nil => simp [Harvest.empty, Tree.preorderAll]
  | leftOut _ _ ih => exact ih
  | other _ _ _ ih => exact ih
  | file _ hkind htakes _ ih =>
    intro t ht hfile
    obtain ⟨f, hnodes, -⟩ := htakes.takenFrom hkind
    rw [Harvest.nodes_append, hnodes, Tree.preorderAll_append, List.mem_append] at ht
    rcases ht with ht | ht
    · have heq : t = .node f [] := by simpa [Tree.preorderAll, Tree.preorder] using ht
      rw [heq]
      rfl
    · exact ih t ht hfile
  | folder _ _ _ _ _ ihinside ih =>
    intro t ht hfile
    rw [Harvest.nodes_append, Tree.preorderAll_append, List.mem_append] at ht
    rcases ht with ht | ht
    · simp only [Tree.preorderAll, Tree.preorder, List.append_nil, List.mem_cons] at ht
      rcases ht with rfl | ht
      · exact absurd hfile (by simp [Tree.label, folderNode, Node.isFile])
      · exact ihinside t ht hfile
    · exact ih t ht hfile

theorem filesAreLeaves_of_gathers (hgathers : Gathers s p n es events h) (name path : Label) :
    Project.FilesAreLeaves (.node (folderNode s name path) h.nodes) := by
  intro t ht hfile
  rcases List.mem_cons.1 ht with rfl | ht
  · exact absurd hfile (by simp [Tree.label, folderNode, Node.isFile])
  · exact children_of_gathers hgathers t ht hfile

/-! ## Entries of a folder on a disk -/

variable {path : List String} {name : String}

/-- The entry lies in the folder at `path`, under this name. -/
structure LiesAt (path : List String) (e : Entry) (name : String) : Prop where
  isName : IsName name
  name_eq : e.name = .text name
  path_eq : e.path = .text (Path.render (path ++ [name]))
  target_eq : e.target = e.path

/-- Some entries of the folder at `path`. -/
structure EntriesAt (path : List String) (es : List Entry) : Prop where
  nodup : (es.map Entry.name).Nodup
  lies : ∀ e ∈ es, ∃ name, LiesAt path e name

theorem EntriesAt.tail (hes : EntriesAt path (e :: es)) : EntriesAt path es := by
  refine ⟨(List.nodup_cons.1 hes.nodup).2, ?_⟩
  intro e' he'
  exact hes.lies e' (List.mem_cons_of_mem _ he')

theorem entriesAt_of_listFolder {disk : Disk} (hdisk : disk.WellFormed) {root : List String}
    (hlist : Provider.listFolder disk root path = .ok es) : EntriesAt path es := by
  refine ⟨Provider.nodup_listFolder hdisk hlist, ?_⟩
  intro e he
  obtain ⟨name, hname, hlabel, hpath, htarget⟩ := Provider.mem_listFolder hdisk hlist he
  exact ⟨name, hname, hlabel, hpath, htarget⟩

theorem LiesAt.areComponents (hlies : LiesAt path e name) (hpath : Path.AreComponents path) :
    Path.AreComponents (path ++ [name]) :=
  hpath.append hlies.isName.singleton.areComponents

/-- A folder among the entries is listed as the folder under its name. -/
theorem LiesAt.listFolder (hlies : LiesAt path e name) (hpath : Path.AreComponents path)
    (disk : Disk) (root : List String) :
    (Provider.ofDisk disk root).list e.path = Provider.listFolder disk root (path ++ [name]) := by
  rw [hlies.path_eq]
  exact Provider.list_render (hlies.areComponents hpath) disk root

/-! ## The paths of nodes -/

/-- The node lies at or below the name in the folder at `path`. -/
def Under (path : List String) (name : String) (m : Node) : Prop :=
  ∃ below, AreNames below ∧ m.path = .text (Path.render (path ++ name :: below))

theorem Under.isText {m : Node} (hm : Under path name m) : m.path.isText = true := by
  obtain ⟨below, -, hpath⟩ := hm
  rw [hpath]
  rfl

/-- Nodes under different names have different paths. -/
theorem Under.ne {a b : String} {m m' : Node} (hpath : Path.AreComponents path) (ha : IsName a)
    (hb : IsName b) (hm : Under path a m) (hm' : Under path b m') (hne : a ≠ b) :
    m.path ≠ m'.path := by
  obtain ⟨below, hbelow, hmpath⟩ := hm
  obtain ⟨below', hbelow', hmpath'⟩ := hm'
  rw [hmpath, hmpath']
  intro heq
  have hsame := Path.render_injective (hpath.append (ha.cons hbelow).areComponents)
    (hpath.append (hb.cons hbelow').areComponents) (Json.text.inj heq)
  rw [List.append_cancel_left_eq] at hsame
  exact hne (List.cons.inj hsame).1

/-- The nodes lie under the names of the entries, and have different paths. -/
structure Spread (path : List String) (es : List Entry) (ms : List Node) : Prop where
  under : ∀ m ∈ ms, ∃ e ∈ es, ∃ name, LiesAt path e name ∧ Under path name m
  nodup : (ms.map Node.path).Nodup

theorem Spread.skip {ms : List Node} (hms : Spread path es ms) : Spread path (e :: es) ms := by
  refine ⟨?_, hms.nodup⟩
  intro m hm
  obtain ⟨e', he', hunder⟩ := hms.under m hm
  exact ⟨e', List.mem_cons_of_mem _ he', hunder⟩

theorem Spread.cons {ms rest : List Node} (hpath : Path.AreComponents path)
    (hes : EntriesAt path (e :: es)) (hlies : LiesAt path e name)
    (hunder : ∀ m ∈ ms, Under path name m) (hnodup : (ms.map Node.path).Nodup)
    (hrest : Spread path es rest) : Spread path (e :: es) (ms ++ rest) := by
  refine ⟨?_, ?_⟩
  · intro m hm
    rcases List.mem_append.1 hm with hm | hm
    · exact ⟨e, List.mem_cons_self, name, hlies, hunder m hm⟩
    · exact hrest.skip.under m hm
  · rw [List.map_append, List.nodup_append]
    refine ⟨hnodup, hrest.nodup, ?_⟩
    intro a ha b hb
    obtain ⟨m, hm, rfl⟩ := List.mem_map.1 ha
    obtain ⟨m', hm', rfl⟩ := List.mem_map.1 hb
    obtain ⟨e', he', name', hlies', hunder'⟩ := hrest.under m' hm'
    refine Under.ne hpath hlies.isName hlies'.isName (hunder m hm) hunder' ?_
    -- the name of an entry is not that of a later one
    rintro rfl
    apply (List.nodup_cons.1 hes.nodup).1
    rw [hlies.name_eq, ← hlies'.name_eq]
    exact List.mem_map_of_mem he'

/-- What is spread in a folder lies under the name of the folder. -/
theorem Spread.folder {inside : List Entry} {ms : List Node} {m : Node}
    (hpath : Path.AreComponents path) (hlies : LiesAt path e name)
    (hms : Spread (path ++ [name]) inside ms) (hm : m.path = e.path) :
    (∀ m' ∈ m :: ms, Under path name m') ∧ ((m :: ms).map Node.path).Nodup := by
  have hbelow : ∀ m' ∈ ms, ∃ other below, AreNames (other :: below) ∧
      m'.path = .text (Path.render (path ++ name :: other :: below)) := by
    intro m' hm'
    obtain ⟨e', -, other, hlies', below, hnames, hpath'⟩ := hms.under m' hm'
    refine ⟨other, below, hlies'.isName.cons hnames, ?_⟩
    rw [hpath', List.append_assoc]
    rfl
  refine ⟨?_, ?_⟩
  · intro m' hm'
    rcases List.mem_cons.1 hm' with rfl | hm'
    · exact ⟨[], Disk.areNames_nil, hm.trans hlies.path_eq⟩
    · obtain ⟨other, below, hnames, hpath'⟩ := hbelow m' hm'
      exact ⟨other :: below, hnames, hpath'⟩
  · rw [List.map_cons, List.nodup_cons]
    refine ⟨?_, hms.nodup⟩
    intro hmem
    obtain ⟨m', hm', heq⟩ := List.mem_map.1 hmem
    obtain ⟨other, below, hnames, hpath'⟩ := hbelow m' hm'
    rw [hpath', hm, hlies.path_eq] at heq
    have hdeeper := hpath.append (hlies.isName.cons hnames).areComponents
    have hsame := Path.render_injective hdeeper (hlies.areComponents hpath) (Json.text.inj heq)
    simp at hsame

theorem spread_of_gathers {disk : Disk} {root : List String} (hdisk : disk.WellFormed)
    (hgathers : Gathers s (.ofDisk disk root) n es events h) (hpath : Path.AreComponents path)
    (hes : EntriesAt path es) : Spread path es (h.nodes.flatMap Project.nodes) := by
  induction hgathers generalizing path with
  | nil => exact ⟨by simp [Harvest.empty], List.nodup_nil⟩
  | leftOut _ _ ih => exact (ih hpath hes.tail).skip
  | other _ _ _ ih => exact (ih hpath hes.tail).skip
  | @file n e es events later h rest _ hkind htakes _ ih =>
    obtain ⟨name, hlies⟩ := hes.lies e List.mem_cons_self
    obtain ⟨f, hnodes, htaken⟩ := htakes.takenFrom hkind
    have hf : Project.nodes (.node f []) = [f] := rfl
    rw [Harvest.nodes_append, hnodes, List.flatMap_append, List.flatMap_singleton, hf]
    refine .cons hpath hes hlies ?_ (List.nodup_singleton _) (ih hpath hes.tail)
    intro m hm
    rw [List.mem_singleton.1 hm]
    exact ⟨[], Disk.areNames_nil, htaken.isFileAt.2.trans hlies.path_eq⟩
  | @folder n e es inside events later h rest _ _ hlist _ _ ihinside ih =>
    obtain ⟨name, hlies⟩ := hes.lies e List.mem_cons_self
    rw [hlies.listFolder hpath] at hlist
    have hinside := ihinside (hlies.areComponents hpath) (entriesAt_of_listFolder hdisk hlist)
    obtain ⟨hunder, hnodup⟩ := hinside.folder hpath hlies (m := folderNode s e.name e.path) rfl
    rw [Harvest.nodes_append, List.flatMap_append, List.flatMap_singleton, Project.nodes_node]
    exact .cons hpath hes hlies hunder hnodup (ih hpath hes.tail)

/-- The files of a project on a disk lie at different paths. -/
theorem wellPlaced_of_run {disk : Disk} {root : List String} {start : Label} {scan : Scan}
    (hdisk : disk.WellFormed) (hrun : (run s (.ofDisk disk root) start).result = .ok scan) :
    scan.project.WellPlaced := by
  obtain ⟨n, name, es, later, harvest, _, _, hlist, hgathers, -, rfl⟩ :=
    (run_gives_iff s _ start _ scan).1 (Run.gives_of_result hrun)
  obtain ⟨path, hpath, hlists⟩ := Provider.exists_start hlist
  rw [hlists] at hlist
  have hspread := spread_of_gathers hdisk hgathers hpath (entriesAt_of_listFolder hdisk hlist)
  have hfiles : harvest.nodes.flatMap Project.files =
      (harvest.nodes.flatMap Project.nodes).filter Node.isFile := by
    rw [List.filter_flatMap]
    rfl
  refine ⟨filesAreLeaves_of_gathers hgathers name start, ?_, ?_⟩
  · rw [Project.files_folder rfl, hfiles]
    exact (List.filter_sublist.map Node.path).nodup hspread.nodup
  · intro f hf
    rw [Project.files_folder rfl, hfiles] at hf
    obtain ⟨e, -, first, -, hunder⟩ := hspread.under f (List.mem_filter.1 hf).1
    exact hunder.isText

/-! ## Files and their records -/

variable {f : Node}

/-- A source file of a project on a disk lies at its path below the root, and has the text of the
bytes there. -/
theorem exists_bytes_of_run {disk : Disk} {root : List String} {start : Label} {scan : Scan}
    (hdisk : disk.WellFormed) (hrun : (run s (.ofDisk disk root) start).result = .ok scan)
    (hf : f ∈ scan.project.files) (hdialect : f.dialect?.isSome = true) :
    ∃ cs name bytes, Path.AreComponents (cs ++ [name]) ∧ f.name = .text name ∧
      f.path = .text (Path.render (cs ++ [name])) ∧
      disk.read (root ++ (cs ++ [name])) = .ok bytes ∧
      f.text = some (Provider.fileText bytes) := by
  have hlisted := readAsListed_of_run hrun f hf
  obtain ⟨text, htext⟩ := Option.isSome_iff_exists.1 (hlisted.text_iff.2 hdialect)
  obtain ⟨e, ⟨folder, ts, es, -, -, hlist, he, -, hname, hpath⟩, hfetch⟩ :=
    hlisted.fetched text htext
  obtain ⟨cs, hcs, hlists⟩ := Provider.exists_start hlist
  rw [hlists] at hlist
  obtain ⟨name, hisName, hlabel, hplace, htarget⟩ := Provider.mem_listFolder hdisk hlist he
  have hcomponents := hcs.append hisName.singleton.areComponents
  rw [htarget, hplace, Provider.textOf_render hcomponents] at hfetch
  obtain ⟨bytes, hat, rfl⟩ := (Provider.textAt_eq_ok_iff _ _ _).1 hfetch
  refine ⟨cs, name, bytes, hcomponents, hname.symm.trans hlabel, hpath.symm.trans hplace, ?_, htext⟩
  unfold Disk.read
  rw [hat]

/-- A source file that was not read has one record, if no other file has its path. -/
theorem exists_record {fs : List Node} {rs : List FileProblem}
    (h : List.Forall₂ (Records s) fs rs) (hnodup : (fs.map Node.path).Nodup) (hf : f ∈ fs) :
    ∃ r, rs.filter (fun r => r.path = f.path) = [r] ∧ Records s f r := by
  induction h with
  | nil => cases hf
  | @cons g r fs rs hrecords hrest ih =>
    rw [List.map_cons, List.nodup_cons] at hnodup
    rcases List.mem_cons.1 hf with rfl | hf
    · have hothers : rs.filter (fun r => r.path = f.path) = [] := by
        refine List.filter_eq_nil_iff.2 ?_
        intro r' hr' heq
        obtain ⟨g, hg, hrecords'⟩ := exists_of_mem_records hrest hr'
        apply hnodup.1
        rw [← of_decide_eq_true heq, hrecords'.path]
        exact List.mem_map_of_mem hg
      refine ⟨r, ?_, hrecords⟩
      rw [List.filter_cons_of_pos (by simp [hrecords.path]), hothers]
    · have hne : r.path ≠ f.path := by
        intro heq
        apply hnodup.1
        rw [← hrecords.path, heq]
        exact List.mem_map_of_mem hf
      obtain ⟨r', hfilter, hrecords'⟩ := ih hnodup.2 hf
      refine ⟨r', ?_, hrecords'⟩
      rw [List.filter_cons_of_neg (by simp [hne]), hfilter]

theorem exists_record_of_run {disk : Disk} {root : List String} {start : Label} {scan : Scan}
    (hdisk : disk.WellFormed) (hrun : (run s (.ofDisk disk root) start).result = .ok scan)
    (hf : f ∈ scan.project.files) (hunread : f.isUnread = true) :
    ∃ r, scan.problems.filter (fun r => r.path = f.path) = [r] ∧ Records s f r := by
  have hproblems := (agrees_of_run hrun).problems
  rw [List.flatMap_singleton] at hproblems
  refine exists_record hproblems ?_ (List.mem_filter.2 ⟨hf, hunread⟩)
  exact (List.filter_sublist.map Node.path).nodup (wellPlaced_of_run hdisk hrun).nodup

end CodeAtlas.Scan
