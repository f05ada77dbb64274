-- What a scan asks its provider for. The entries that are taken in form a tree of the same shape as
-- the project, and the calls are this tree read in order: a folder is listed where it stands, a
-- source file is fetched where it stands, and nothing else is asked for.
import CodeAtlas.Proofs.Scan.Agreement

namespace CodeAtlas

namespace Tree

variable {α β : Type}

/-- All labels, each before those below it. -/
def labels (t : Tree α) : List α := t.preorder.map label

theorem labels_node (a : α) (ts : List (Tree α)) :
    labels (.node a ts) = a :: ts.flatMap labels := by
  unfold labels
  rw [preorder, preorderAll_eq_flatMap, List.map_cons, List.map_flatMap]
  rfl

theorem labels_map (f : α → β) (t : Tree α) : (t.map f).labels = t.labels.map f := by
  simp [labels, preorder_map, label_map]

theorem flatMap_labels_mapAll (f : α → β) (ts : List (Tree α)) :
    (mapAll f ts).flatMap labels = (ts.flatMap labels).map f := by
  simp [mapAll_eq_map, List.flatMap_map, List.map_flatMap, labels_map]

end Tree

/-! ## Entries -/

/-- The rules leave out what has this name. -/
def Settings.excludes (s : Settings) (name : String) (isFolder : Bool) : Bool :=
  match s.rules with
  | none => false
  | some rules => rules.excluded name isFolder

namespace Entry

/-- The rules leave the entry out. -/
def isExcluded (s : Settings) (e : Entry) : Bool :=
  e.name.text?.any fun name => s.excludes name (e.kind = .folder)

/-- The entry is a file or a folder, and is not left out. -/
def isTaken (s : Settings) (e : Entry) : Bool :=
  (e.kind = .file || e.kind = .folder) && !e.isExcluded s

/-- What the provider is asked for when the entry is taken in. -/
def call? (e : Entry) : Option Call :=
  match e.kind with
  | .folder => some (.list e.path)
  | .file => if (e.name.text?.bind Dialect.ofPath?).isSome then some (.fetch e.target) else none
  | .other _ => none

/-- What an entry and its node have in common. -/
def place (e : Entry) : EntryKind × Label × Label := (e.kind, e.name, e.path)

end Entry

def NodeKind.asEntry : NodeKind → EntryKind
  | .file => .file
  | .folder => .folder

def Node.place (n : Node) : EntryKind × Label × Label := (n.kind.asEntry, n.name, n.path)

namespace Scan

variable {s : Settings} {p : Provider} {n : Nat} {e : Entry} {es : List Entry}
  {events : List Event} {h : Harvest}

/-- The rules can only be asked about a name. -/
theorem excluded_eq_ok_iff (s : Settings) (e : Entry) (b : Bool) :
    (excluded s e).result = .ok b ↔
      (s.rules = none ∨ e.name.isText = true) ∧ e.isExcluded s = b := by
  unfold excluded Entry.isExcluded Settings.excludes
  cases s.rules with
  | none =>
    have hnone : (e.name.text?.any fun _ => false) = false := by
      cases e.name.text? <;> rfl
    simp [Run.pure_eq_done, Run.done, hnone]
  | some rules =>
    cases e.name <;> simp [withText, Run.fail, Run.pure_eq_done, Run.done, Json.isText, Json.text?]

/-! ## The tree of entries -/

/-- A tree of entries as a provider lists them: a folder holds what is listed for it, in order, but
for what is left out or passed over, and a file holds nothing. -/
structure Itinerary (s : Settings) (p : Provider) (t : Tree Entry) : Prop where
  file : ∀ u ∈ t.preorder, u.label.kind = .file → u.children = []
  folder : ∀ u ∈ t.preorder, u.label.kind = .folder →
    ∃ es, p.list u.label.path = .ok es ∧ u.children.map Tree.label = es.filter (Entry.isTaken s)

/-- The trees stand for the nodes that come of some entries, and their calls are those that are
made on the way. -/
structure Traced (s : Settings) (p : Provider) (es : List Entry) (events : List Event)
    (nodes : List Project) (ts : List (Tree Entry)) : Prop where
  labels : ts.map Tree.label = es.filter (Entry.isTaken s)
  places : Tree.mapAll Entry.place ts = Tree.mapAll Node.place nodes
  calls : events.filterMap Event.call? = (ts.flatMap Tree.labels).filterMap Entry.call?
  itinerary : ∀ t ∈ ts, Itinerary s p t
  kept : ∀ e ∈ ts.flatMap Tree.labels, (excluded s e).result = .ok false

theorem isTaken_of_kept (hkept : (excluded s e).result = .ok false)
    (hkind : e.kind = .file ∨ e.kind = .folder) : e.isTaken s = true := by
  have hexcluded := ((excluded_eq_ok_iff s e false).1 hkept).2
  rcases hkind with hkind | hkind
  · simp [Entry.isTaken, hkind, hexcluded]
  · simp [Entry.isTaken, hkind, hexcluded]

theorem Traced.skip {nodes : List Project} {ts : List (Tree Entry)}
    (htraced : Traced s p es events nodes ts) (hdropped : e.isTaken s = false) :
    Traced s p (e :: es) events nodes ts := by
  refine ⟨?_, htraced.places, htraced.calls, htraced.itinerary, htraced.kept⟩
  rw [List.filter_cons_of_neg (by simp [hdropped])]
  exact htraced.labels

theorem Traced.note {nodes : List Project} {ts : List (Tree Entry)} {event : Event}
    (htraced : Traced s p es events nodes ts) (hevent : event.call? = none) :
    Traced s p es (event :: events) nodes ts := by
  refine ⟨htraced.labels, htraced.places, ?_, htraced.itinerary, htraced.kept⟩
  rw [List.filterMap_cons_none hevent]
  exact htraced.calls

/-- One more entry is taken in, with its own tree and its own calls. -/
theorem Traced.cons {before later : List Event} {us ts : List (Tree Entry)} {node : Project}
    {nodes : List Project} (hkind : e.kind = .file ∨ e.kind = .folder)
    (hkept : ∀ d ∈ Tree.labels (.node e us), (excluded s d).result = .ok false)
    (hplace : (Tree.node e us).map Entry.place = node.map Node.place)
    (hcalls : before.filterMap Event.call? = (Tree.labels (.node e us)).filterMap Entry.call?)
    (ht : Itinerary s p (.node e us)) (hrest : Traced s p es later nodes ts) :
    Traced s p (e :: es) (before ++ later) (node :: nodes) (.node e us :: ts) := by
  have htaken : e.isTaken s = true := by
    refine isTaken_of_kept (hkept e ?_) hkind
    rw [Tree.labels_node]
    exact List.mem_cons_self
  refine ⟨?_, ?_, ?_, ?_, ?_⟩
  · rw [List.filter_cons_of_pos htaken, List.map_cons, hrest.labels]
    rfl
  · rw [Tree.mapAll, Tree.mapAll, hplace, hrest.places]
  · rw [List.filterMap_append, hcalls, hrest.calls, List.flatMap_cons, List.filterMap_append]
  · exact List.forall_mem_cons.2 ⟨ht, hrest.itinerary⟩
  · rw [List.flatMap_cons]
    exact List.forall_mem_append.2 ⟨hkept, hrest.kept⟩

/-- A file asks for its text if it is a source file, and for nothing else. -/
theorem calls_of_takes (htakes : Takes s p e events h) (hkind : e.kind = .file) :
    events.filterMap Event.call? = e.call?.toList := by
  cases htakes with
  | plain hname hdialect => simp [Entry.call?, hkind, hname, Json.text?, hdialect]
  | source hname hdialect =>
    simp [Entry.call?, hkind, hname, Json.text?, hdialect, Event.call?]

theorem TakenFrom.place {f : Node} (htaken : TakenFrom s p e f) : f.place = e.place := by
  obtain ⟨hkind, _, _, ⟨_, rfl⟩ | ⟨_, _, _, _, rfl⟩⟩ := htaken
  · simp [Node.place, Entry.place, plainFile, NodeKind.asEntry, hkind]
  · simp [Node.place, Entry.place, sourceFile, plainFile, NodeKind.asEntry, hkind]

theorem itinerary_leaf (hkind : e.kind = .file) : Itinerary s p (.node e []) := by
  refine ⟨?_, ?_⟩
  · intro u hu _
    rw [List.mem_singleton.1 hu]
    rfl
  · intro u hu hfolder
    rw [List.mem_singleton.1 hu] at hfolder
    rw [Tree.label, hkind] at hfolder
    cases hfolder

theorem Traced.itinerary_folder {inside : List Entry} {ts : List (Tree Entry)}
    {nodes : List Project} (hkind : e.kind = .folder) (hlist : p.list e.path = .ok inside)
    (htraced : Traced s p inside events nodes ts) : Itinerary s p (.node e ts) := by
  have hbelow : ∀ u ∈ Tree.preorderAll ts, ∃ t ∈ ts, u ∈ t.preorder := by
    intro u hu
    rw [Tree.preorderAll_eq_flatMap] at hu
    exact List.mem_flatMap.1 hu
  refine ⟨?_, ?_⟩
  · intro u hu hfile
    rcases List.mem_cons.1 hu with rfl | hu
    · rw [Tree.label, hkind] at hfile
      cases hfile
    · obtain ⟨t, ht, hu⟩ := hbelow u hu
      exact (htraced.itinerary t ht).file u hu hfile
  · intro u hu hfolder
    rcases List.mem_cons.1 hu with rfl | hu
    · exact ⟨inside, hlist, htraced.labels⟩
    · obtain ⟨t, ht, hu⟩ := hbelow u hu
      exact (htraced.itinerary t ht).folder u hu hfolder

theorem traced_of_gathers (hgathers : Gathers s p n es events h) :
    ∃ ts, Traced s p es events h.nodes ts := by
  induction hgathers with
  | nil => exact ⟨[], rfl, rfl, rfl, by simp, by simp⟩
  | @leftOut n e es later rest hexcluded _ ih =>
    obtain ⟨ts, htraced⟩ := ih
    have hdropped : e.isTaken s = false := by
      simp [Entry.isTaken, ((excluded_eq_ok_iff s e true).1 hexcluded).2]
    exact ⟨ts, (htraced.skip hdropped).note rfl⟩
  | @other n e es later rest label _ hkind _ ih =>
    obtain ⟨ts, htraced⟩ := ih
    exact ⟨ts, htraced.skip (by simp [Entry.isTaken, hkind])⟩
  | @file n e es events later h rest hkept hkind htakes _ ih =>
    obtain ⟨ts, htraced⟩ := ih
    obtain ⟨f, hnodes, htaken⟩ := htakes.takenFrom hkind
    refine ⟨.node e [] :: ts, ?_⟩
    rw [Harvest.nodes_append, hnodes]
    refine .cons (.inl hkind) ?_ ?_ ?_ (itinerary_leaf hkind) htraced
    · rw [Tree.labels_node]
      simpa using hkept
    · rw [Tree.map, Tree.map, htaken.place]
      rfl
    · rw [List.filterMap_cons_none rfl, calls_of_takes htakes hkind, Tree.labels_node]
      cases hcall : e.call? <;> simp [hcall]
  | @folder n e es inside events later h rest hkept hkind hlist _ _ ihinside ih =>
    obtain ⟨ts, htraced⟩ := ih
    obtain ⟨us, hus⟩ := ihinside
    have hasked : (Event.asked (.list e.path)).call? = e.call? := by
      simp [Entry.call?, hkind, Event.call?]
    refine ⟨.node e us :: ts, ?_⟩
    refine .cons (.inr hkind) ?_ ?_ ?_ (hus.itinerary_folder hkind hlist) htraced
    · rw [Tree.labels_node]
      exact List.forall_mem_cons.2 ⟨hkept, hus.kept⟩
    · rw [Tree.map, Tree.map, hus.places]
      simp [Entry.place, Node.place, folderNode, NodeKind.asEntry, hkind]
    · rw [Tree.labels_node, List.filterMap_cons, List.filterMap_cons, hasked, hus.calls]

/-! ## The calls of a scan -/

/-- The nodes below the start are of entries that the rules let through. -/
theorem Traced.node_kept {nodes : List Project} {ts : List (Tree Entry)}
    (htraced : Traced s p es events nodes ts) {m : Node} (hm : m ∈ nodes.flatMap Project.nodes)
    {rules : Exclusion.Rules} (hrules : s.rules = some rules) :
    ∃ name, m.name = .text name ∧ rules.excluded name m.isFolder = false := by
  have hplaces : (ts.flatMap Tree.labels).map Entry.place =
      (nodes.flatMap Project.nodes).map Node.place := by
    rw [← Tree.flatMap_labels_mapAll, htraced.places, Tree.flatMap_labels_mapAll]
    rfl
  obtain ⟨e, he, hplace⟩ := List.mem_map.1 (hplaces ▸ List.mem_map_of_mem hm)
  obtain ⟨hkind, hname, -⟩ : e.kind = m.kind.asEntry ∧ e.name = m.name ∧ e.path = m.path := by
    simpa [Entry.place, Node.place] using hplace
  have hfolder : decide (e.kind = .folder) = m.isFolder := by
    rw [hkind]
    cases hm : m.kind <;> simp [Node.isFolder, hm, NodeKind.asEntry]
  obtain ⟨htext, hexcluded⟩ := (excluded_eq_ok_iff _ _ _).1 (htraced.kept e he)
  rw [hrules] at htext
  obtain ⟨name, htext⟩ := Label.text_of_isText (htext.resolve_left (by simp))
  refine ⟨name, hname.symm.trans htext, ?_⟩
  simpa [Entry.isExcluded, Settings.excludes, htext, Json.text?, hrules, hfolder] using hexcluded

/-- A scan asks its provider for what its tree, read in order, tells: the folders are listed and
the source files are fetched where they stand, once each, and what the rules leave out is neither
in the tree nor asked for. -/
theorem run_calls_in_reading_order (s : Settings) (p : Provider) (path : Label) (scan : Scan)
    (h : (run s p path).result = .ok scan) :
    ∃ t : Tree Entry, t.label.kind = .folder ∧ t.label.path = path ∧ Itinerary s p t ∧
      t.map Entry.place = scan.project.map Node.place ∧
      (run s p path).calls = t.labels.filterMap Entry.call? ∧
      ∀ m ∈ scan.project.children.flatMap Project.nodes, ∀ rules, s.rules = some rules →
        ∃ name, m.name = .text name ∧ rules.excluded name m.isFolder = false := by
  obtain ⟨n, name, es, later, harvest, _, _, hlist, hgathers, hevents, rfl⟩ :=
    (run_gives_iff s p path _ scan).1 (Run.gives_of_result h)
  obtain ⟨ts, htraced⟩ := traced_of_gathers hgathers
  refine ⟨.node ⟨.folder, name, path, .null⟩ ts, rfl, rfl, htraced.itinerary_folder rfl hlist, ?_,
    ?_, fun m hm rules hrules => htraced.node_kept hm hrules⟩
  · rw [Tree.map, Tree.map, htraced.places]
    rfl
  · rw [Run.calls, hevents, Tree.labels_node]
    exact congrArg (Call.list path :: ·) htraced.calls

/-- The folder that is left out is not listed, and the file with a reference is fetched by it. -/
theorem run_calls_in_reading_order_mixed :
    ∃ scan, (run smallFiles mixedFolders (.text "")).result = .ok scan ∧
      (run smallFiles mixedFolders (.text "")).calls =
        [.list (.text ""), .list (.text "lib"), .fetch (.text "blob"),
          .fetch (.text "lib/large.js"), .fetch (.text "main.ts")] ∧
      ∃ t : Tree Entry, t.label.kind = .folder ∧ t.label.path = .text "" ∧
        Itinerary smallFiles mixedFolders t ∧
        t.map Entry.place = scan.project.map Node.place ∧
        (run smallFiles mixedFolders (.text "")).calls = t.labels.filterMap Entry.call? ∧
        ∀ m ∈ scan.project.children.flatMap Project.nodes, ∀ rules,
          smallFiles.rules = some rules →
            ∃ name, m.name = .text name ∧ rules.excluded name m.isFolder = false := by
  have hsucceeds : (run smallFiles mixedFolders (.text "")).result.isOk = true := by
    decide +kernel
  cases h : (run smallFiles mixedFolders (.text "")).result with
  | error e =>
    rw [h] at hsucceeds
    cases hsucceeds
  | ok scan =>
    exact ⟨scan, rfl, by decide +kernel, run_calls_in_reading_order _ _ _ scan h⟩

end Scan

end CodeAtlas
