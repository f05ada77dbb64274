-- Scans of two providers that mirror each other. If they list the same entries, up to how a text is
-- asked for, and give the same texts, then the scans bring in the same up to the ids of nodes.
import CodeAtlas.Proofs.Scan.Itinerary

namespace CodeAtlas

/-! ## Up to ids -/

/-- The node without its id. -/
def Node.anon (n : Node) : Node := { n with id := "" }

theorem Tree.mapAll_append {α β : Type} (f : α → β) (ts us : List (Tree α)) :
    mapAll f (ts ++ us) = mapAll f ts ++ mapAll f us := by
  rw [mapAll_eq_map, mapAll_eq_map, mapAll_eq_map, List.map_append]

/-- The same nodes up to their ids, and the same problems. -/
structure Harvest.SameButIds (h h' : Harvest) : Prop where
  nodes : Tree.mapAll Node.anon h'.nodes = Tree.mapAll Node.anon h.nodes
  problems : h'.problems = h.problems

theorem Harvest.SameButIds.append {a b a' b' : Harvest} (ha : a.SameButIds a')
    (hb : b.SameButIds b') : (a ++ b).SameButIds (a' ++ b') := by
  constructor
  · rw [nodes_append, nodes_append, Tree.mapAll_append, Tree.mapAll_append, ha.nodes, hb.nodes]
  · rw [problems_append, problems_append, ha.problems, hb.problems]

namespace Settings

/-- The same settings, but for how nodes are identified. -/
def identifiedBy (s : Settings) (identify : String → String) : Settings :=
  { s with identify := identify }

@[simp] theorem source?_identifiedBy (s : Settings) (identify : String → String) :
    (s.identifiedBy identify).source? = s.source? := rfl

@[simp] theorem problem?_identifiedBy (s : Settings) (identify : String → String) :
    (s.identifiedBy identify).problem? = s.problem? := rfl

end Settings

namespace Scan

variable {s : Settings} {p p' : Provider} {n n' : Nat} {e e' : Entry} {es es' : List Entry}
  {events events' : List Event} {h h' : Harvest} {identify : String → String}

/-! ## What becomes of the first entry -/

theorem Gathers.of_leftOut (hgathers : Gathers s p n (e :: es) events h)
    (hexcluded : (excluded s e).result = .ok true) :
    ∃ later, Gathers s p n es later h ∧
      events = .noted (.excluded e.path.shown) :: later := by
  cases hgathers with
  | leftOut _ hrest => exact ⟨_, hrest, rfl⟩
  | other hkept _ _ => cases hexcluded.symm.trans hkept
  | file hkept _ _ _ => cases hexcluded.symm.trans hkept
  | folder hkept _ _ _ _ => cases hexcluded.symm.trans hkept

theorem Gathers.of_other {label : Label} (hgathers : Gathers s p n (e :: es) events h)
    (hkept : (excluded s e).result = .ok false) (hkind : e.kind = .other label) :
    Gathers s p n es events h := by
  cases hgathers with
  | leftOut hexcluded _ => cases hkept.symm.trans hexcluded
  | other _ _ hrest => exact hrest
  | file _ hfile _ _ => cases hkind.symm.trans hfile
  | folder _ hfolder _ _ _ => cases hkind.symm.trans hfolder

theorem Gathers.of_file (hgathers : Gathers s p n (e :: es) events h)
    (hkept : (excluded s e).result = .ok false) (hkind : e.kind = .file) :
    ∃ first later taken rest, Takes s p e first taken ∧ Gathers s p n es later rest ∧
      events = .reached e.name :: first ++ later ∧ h = taken ++ rest := by
  cases hgathers with
  | leftOut hexcluded _ => cases hkept.symm.trans hexcluded
  | other _ hother _ => cases hkind.symm.trans hother
  | file _ _ htakes hrest => exact ⟨_, _, _, _, htakes, hrest, rfl, rfl⟩
  | folder _ hfolder _ _ _ => cases hkind.symm.trans hfolder

theorem Gathers.of_folder (hgathers : Gathers s p n (e :: es) events h)
    (hkept : (excluded s e).result = .ok false) (hkind : e.kind = .folder) :
    ∃ m inside first later below rest, n = m + 1 ∧ p.list e.path = .ok inside ∧
      Gathers s p m inside first below ∧ Gathers s p (m + 1) es later rest ∧
      events = .asked (.list e.path) :: first ++ later ∧
      h = ⟨[.node (folderNode s e.name e.path) below.nodes], below.edges, below.problems⟩
        ++ rest := by
  cases hgathers with
  | leftOut hexcluded _ => cases hkept.symm.trans hexcluded
  | other _ hother _ => cases hkind.symm.trans hother
  | file _ hfile _ _ => cases hkind.symm.trans hfile
  | folder _ _ hlist hinside hrest =>
    exact ⟨_, _, _, _, _, _, rfl, hlist, hinside, hrest, rfl, rfl⟩

/-! ## Two providers -/

/-- Related entries stand in the same place, and whatever both providers answer for them is the
same text or again a list of related entries. -/
structure Mirrors (p p' : Provider) (R : Entry → Entry → Prop) : Prop where
  place : ∀ {e e'}, R e e' → e'.place = e.place
  fetch : ∀ {e e' text text'}, R e e' → e.kind = .file → p.textOf e.target = .ok text →
    p'.textOf e'.target = .ok text' → text' = text
  list : ∀ {e e' es es'}, R e e' → e.kind = .folder → p.list e.path = .ok es →
    p'.list e'.path = .ok es' → List.Forall₂ R es es'

theorem place_eq_iff : e'.place = e.place ↔ e'.kind = e.kind ∧ e'.name = e.name ∧
    e'.path = e.path := by
  simp [Entry.place]

/-- The rules see nothing but the place of an entry. -/
theorem excluded_congr (hplace : e'.place = e.place) :
    excluded (s.identifiedBy identify) e' = excluded s e := by
  obtain ⟨hkind, hname, -⟩ := place_eq_iff.1 hplace
  unfold excluded Settings.identifiedBy
  rw [hkind, hname]

/-- The same text in the same place makes the same file. -/
theorem Takes.sameButIds (htakes : Takes s p e events h)
    (htakes' : Takes (s.identifiedBy identify) p' e' events' h') (hplace : e'.place = e.place)
    (hfetch : ∀ text text', p.textOf e.target = .ok text → p'.textOf e'.target = .ok text' →
      text' = text) : h.SameButIds h' := by
  obtain ⟨-, hsame, hpath⟩ := place_eq_iff.1 hplace
  cases htakes with
  | plain hname hdialect =>
    cases htakes' with
    | plain hname' hdialect' =>
      refine ⟨?_, rfl⟩
      simp [leaf, Tree.mapAll, Tree.map, Node.anon, plainFile, hsame, hpath]
    | source hname' hdialect' hfetch' =>
      cases (hname.symm.trans hsame.symm).trans hname'
      cases hdialect.symm.trans hdialect'
  | source hname hdialect htext =>
    cases htakes' with
    | plain hname' hdialect' =>
      cases (hname.symm.trans hsame.symm).trans hname'
      cases hdialect.symm.trans hdialect'
    | source hname' hdialect' htext' =>
      cases (hname.symm.trans hsame.symm).trans hname'
      cases hdialect.symm.trans hdialect'
      cases hfetch _ _ htext htext'
      constructor
      · simp [sourceHarvest, leaf, sourceFile, Tree.mapAll, Tree.map, Node.anon, plainFile, hsame,
          hpath]
      · simp [sourceHarvest, leaf, hpath]

/-- Scans of related entries bring in the same up to ids. -/
theorem Mirrors.sameButIds {R : Entry → Entry → Prop} (hmirrors : Mirrors p p' R)
    (hgathers : Gathers s p n es events h)
    (hgathers' : Gathers (s.identifiedBy identify) p' n' es' events' h')
    (hes : List.Forall₂ R es es') : h.SameButIds h' := by
  induction hgathers generalizing n' es' events' h' with
  | nil =>
    cases hes
    cases hgathers'
    exact ⟨rfl, rfl⟩
  | leftOut hexcluded _ ih =>
    obtain ⟨e', es', he, htail, rfl⟩ := List.forall₂_cons_left_iff.1 hes
    rw [← excluded_congr (hmirrors.place he)] at hexcluded
    obtain ⟨later, hrest, -⟩ := hgathers'.of_leftOut hexcluded
    exact ih hrest htail
  | other hkept hkind _ ih =>
    obtain ⟨e', es', he, htail, rfl⟩ := List.forall₂_cons_left_iff.1 hes
    have hplace := hmirrors.place he
    rw [← excluded_congr hplace] at hkept
    rw [← (place_eq_iff.1 hplace).1] at hkind
    exact ih (hgathers'.of_other hkept hkind) htail
  | file hkept hkind htakes _ ih =>
    obtain ⟨e', es', he, htail, rfl⟩ := List.forall₂_cons_left_iff.1 hes
    have hplace := hmirrors.place he
    have hkind' := (place_eq_iff.1 hplace).1.trans hkind
    rw [← excluded_congr hplace] at hkept
    obtain ⟨first, later, taken, rest, htakes', hrest, -, rfl⟩ := hgathers'.of_file hkept hkind'
    refine .append ?_ (ih hrest htail)
    exact htakes.sameButIds htakes' hplace fun _ _ => hmirrors.fetch he hkind
  | folder hkept hkind hlist _ _ ihinside ih =>
    obtain ⟨e', es', he, htail, rfl⟩ := List.forall₂_cons_left_iff.1 hes
    have hplace := hmirrors.place he
    obtain ⟨hkinds, hname, hpath⟩ := place_eq_iff.1 hplace
    rw [← excluded_congr hplace] at hkept
    obtain ⟨m, inside, first, later, below, rest, rfl, hlist', hinside, hrest, -, rfl⟩ :=
      hgathers'.of_folder hkept (hkinds.trans hkind)
    have hbelow := ihinside hinside (hmirrors.list he hkind hlist hlist')
    refine .append ⟨?_, hbelow.problems⟩ (ih hrest htail)
    simp [Tree.mapAll, Tree.map, hbelow.nodes, Node.anon, folderNode, hname, hpath]

/-! ## Whole scans -/

theorem progress_run {path : Label} {scan : Scan} (hrun : (run s p path).result = .ok scan) :
    (run s p path).progress = scan.project.files.map Node.name := by
  have hprogress := (agrees_of_run hrun).progress
  rwa [List.flatMap_singleton] at hprogress

theorem edges_run {path : Label} {scan : Scan} (hrun : (run s p path).result = .ok scan) :
    scan.edges = (scan.project.files.filterMap Node.source).flatMap Source.callEdges := by
  have hedges := (agrees_of_run hrun).edges
  rwa [List.flatMap_singleton] at hedges

/-- What sees no ids is the same for all files of projects that are the same up to ids. -/
theorem filterMap_files_congr {β : Type} {q q' : Project} {f : Node → Option β}
    (hf : ∀ m, f m.anon = f m) (hsame : q'.map Node.anon = q.map Node.anon) :
    q'.files.filterMap f = q.files.filterMap f := by
  have hanon : ∀ r : Project, (Project.files (r.map Node.anon)).filterMap f =
      r.files.filterMap f := by
    intro r
    rw [Project.files_map (f := Node.anon) fun _ => rfl, List.filterMap_map]
    congr 1
    funext m
    exact hf m
  rw [← hanon, hsame, hanon]

/-- Scans from related listings return the same up to ids, and report the same progress. -/
theorem Mirrors.run_eq {R : Entry → Entry → Prop} (hmirrors : Mirrors p p' R) {path : Label}
    {scan scan' : Scan} (hrun : (run s p path).result = .ok scan)
    (hrun' : (run (s.identifiedBy identify) p' path).result = .ok scan')
    (htop : ∀ es es', p.list path = .ok es → p'.list path = .ok es' → List.Forall₂ R es es') :
    scan'.project.map Node.anon = scan.project.map Node.anon ∧ scan'.edges = scan.edges ∧
      scan'.problems = scan.problems ∧
      (run (s.identifiedBy identify) p' path).progress = (run s p path).progress := by
  have hsame : scan'.project.map Node.anon = scan.project.map Node.anon ∧
      scan'.problems = scan.problems := by
    obtain ⟨_, name, es, _, h, _, hname, hlist, hgathers, _, rfl⟩ :=
      (run_gives_iff _ _ _ _ scan).1 (Run.gives_of_result hrun)
    obtain ⟨_, name', es', _, h', _, hname', hlist', hgathers', _, rfl⟩ :=
      (run_gives_iff _ _ _ _ scan').1 (Run.gives_of_result hrun')
    cases hname.symm.trans hname'
    have hharvest := hmirrors.sameButIds hgathers hgathers' (htop _ _ hlist hlist')
    refine ⟨?_, hharvest.problems⟩
    simp [Tree.map, hharvest.nodes, Node.anon, folderNode]
  refine ⟨hsame.1, ?_, hsame.2, ?_⟩
  · rw [edges_run hrun, edges_run hrun', filterMap_files_congr (fun _ => rfl) hsame.1]
  · rw [progress_run hrun, progress_run hrun', ← List.filterMap_eq_map,
      filterMap_files_congr (fun _ => rfl) hsame.1]

/-! ## When a scan succeeds -/

/-- The scan of the entries succeeds, and the paths of the files that it brings in are texts. -/
def Succeeds (s : Settings) (p : Provider) (n : Nat) (es : List Entry) : Prop :=
  ∃ events h, Gathers s p n es events h ∧
    ∀ f ∈ h.nodes.flatMap Project.files, f.path.isText = true

/-- What an entry must have to be taken in: its labels are texts, its text is there if it is a
file, and the scan of its entries succeeds if it is a folder that is not left out. -/
structure Ready (s : Settings) (p : Provider) (n : Nat) (e : Entry) : Prop where
  name : e.name.isText = true
  path : e.path.isText = true
  file : e.kind = .file → ∃ text, p.textOf e.target = .ok text
  folder : e.kind = .folder → (excluded s e).result = .ok false →
    ∃ m inside, n = m + 1 ∧ p.list e.path = .ok inside ∧ Succeeds s p m inside

theorem Ready.exists_takes (hready : Ready s p n e) (hkind : e.kind = .file) :
    ∃ events h, Takes s p e events h := by
  obtain ⟨name, hname⟩ := Label.text_of_isText hready.name
  obtain ⟨text, htext⟩ := hready.file hkind
  cases hdialect : Dialect.ofPath? name with
  | none => exact ⟨_, _, .plain hname hdialect⟩
  | some dialect => exact ⟨_, _, .source hname hdialect htext⟩

theorem Takes.isText (htakes : Takes s p e events h) (hpath : e.path.isText = true) :
    ∀ f ∈ h.nodes.flatMap Project.files, f.path.isText = true := by
  cases htakes with
  | plain _ _ =>
    rw [files_leaf rfl]
    simpa [plainFile] using hpath
  | source _ _ _ =>
    unfold sourceHarvest
    rw [files_leaf rfl]
    simpa [sourceFile, plainFile] using hpath

/-- The scan of entries succeeds if each of them can be taken in. -/
theorem succeeds_of_ready (hes : ∀ e ∈ es, Ready s p n e) : Succeeds s p n es := by
  induction es with
  | nil => exact ⟨[], .empty, .nil, by simp [Harvest.empty]⟩
  | cons e es ih =>
    obtain ⟨hready, hes⟩ := List.forall_mem_cons.1 hes
    obtain ⟨later, rest, hrest, htexts⟩ := ih hes
    have hresult := (excluded_eq_ok_iff s e (e.isExcluded s)).2 ⟨.inr hready.name, rfl⟩
    cases hexcluded : e.isExcluded s with
    | true =>
      rw [hexcluded] at hresult
      exact ⟨_, rest, .leftOut hresult hrest, htexts⟩
    | false =>
      rw [hexcluded] at hresult
      cases hkind : e.kind with
      | other label => exact ⟨later, rest, .other hresult hkind hrest, htexts⟩
      | file =>
        obtain ⟨events, h, htakes⟩ := hready.exists_takes hkind
        refine ⟨_, _, .file hresult hkind htakes hrest, ?_⟩
        rw [Harvest.nodes_append, List.flatMap_append]
        exact List.forall_mem_append.2 ⟨htakes.isText hready.path, htexts⟩
      | folder =>
        obtain ⟨m, inside, rfl, hlist, events, h, hinside, hbelow⟩ := hready.folder hkind hresult
        refine ⟨_, _, .folder hresult hkind hlist hinside hrest, ?_⟩
        rw [Harvest.nodes_append, List.flatMap_append, List.flatMap_singleton,
          Project.files_folder rfl]
        exact List.forall_mem_append.2 ⟨hbelow, htexts⟩

/-- A scan succeeds if the entries that it starts with can be gone through. -/
theorem exists_run_of_succeeds {path : Label} {name : Label} (hdepth : p.depth = n + 1)
    (hname : (startName path).result = .ok name) (hlist : p.list path = .ok es)
    (hes : Succeeds s p n es) :
    ∃ scan, (run s p path).result = .ok scan ∧
      ∀ f ∈ scan.project.files, f.path.isText = true := by
  obtain ⟨events, h, hgathers, htexts⟩ := hes
  have hgives := (run_gives_iff s p path _ _).2
    ⟨n, name, es, events, h, hdepth, hname, hlist, hgathers, rfl, rfl⟩
  refine ⟨_, congrArg Run.result hgives, ?_⟩
  rw [Project.files_folder rfl]
  exact htexts

end Scan

end CodeAtlas
