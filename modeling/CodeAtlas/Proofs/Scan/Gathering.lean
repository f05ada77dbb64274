-- What a scan does when it succeeds. `Gathers` says it entry by entry, without the order of
-- evaluation: what happens on the way and what is brought in. It holds exactly for the scans that
-- succeed, so a law of scans is proved by induction on it.
import CodeAtlas.Scan.Analysis

namespace CodeAtlas

/-! ## Runs that succeed -/

namespace Run

variable {α β : Type}

/-- The run succeeds, with these events and this result. -/
def Gives (r : Run α) (events : List Event) (a : α) : Prop := r = ⟨events, .ok a⟩

theorem gives_of_result {r : Run α} {a : α} (h : r.result = .ok a) : r.Gives r.events a := by
  cases r
  cases h
  rfl

theorem gives_done_iff (a b : α) (events : List Event) :
    (pure a : Run α).Gives events b ↔ events = [] ∧ a = b := by
  simp [Gives, pure_eq_done, done, eq_comm]

theorem gives_bind_iff (r : Run α) (f : α → Run β) (events : List Event) (b : β) :
    (r >>= f).Gives events b ↔
      ∃ before a after, r.Gives before a ∧ (f a).Gives after b ∧ events = before ++ after := by
  unfold Gives
  rw [bind_eq_next]
  constructor
  · intro h
    obtain ⟨before, result⟩ := r
    cases result with
    | error e => simp [next] at h
    | ok a =>
      rw [next_of_ok rfl] at h
      injection h with hevents hresult
      refine ⟨before, a, (f a).events, rfl, ?_, hevents.symm⟩
      rw [← hresult]
  · rintro ⟨before, a, after, rfl, hf, rfl⟩
    rw [next_of_ok rfl, hf]

theorem gives_emit_iff (emitted events : List Event) (u : Unit) :
    (emit emitted).Gives events u ↔ events = emitted := by
  simp [Gives, emit, eq_comm]

theorem gives_list_iff (p : Provider) (path : Label) (events : List Event) (es : List Entry) :
    (list p path).Gives events es ↔ events = [.asked (.list path)] ∧ p.list path = .ok es := by
  simp [Gives, list, eq_comm]

theorem gives_fetch_iff (p : Provider) (reference : Label) (events : List Event) (t : String) :
    (fetch p reference).Gives events t ↔
      events = [.asked (.fetch reference)] ∧ p.textOf reference = .ok t := by
  simp [Gives, fetch, eq_comm]

theorem not_gives_fail (e : Failure) (events : List Event) (a : α) :
    ¬ (fail e : Run α).Gives events a := by
  simp [Gives, fail]

end Run

namespace Harvest

@[simp] theorem nodes_append (a b : Harvest) : (a ++ b).nodes = a.nodes ++ b.nodes := rfl

@[simp] theorem edges_append (a b : Harvest) : (a ++ b).edges = a.edges ++ b.edges := rfl

@[simp] theorem problems_append (a b : Harvest) :
    (a ++ b).problems = a.problems ++ b.problems := rfl

end Harvest

/-! ## Reading a file -/

/-- How many bytes a text has. -/
def byteCount (text : String) : Nat := (Utf8.encode text.toList).length

namespace Settings

/-- The source of a text, if the text is not too large and has no fault. -/
def source? (s : Settings) (d : Dialect) (text : String) : Option Source :=
  if s.limit < byteCount text then none else (Source.read s.grammar d text).toOption

/-- The problem of a text that is too large or has a fault. -/
def problem? (s : Settings) (d : Dialect) (text : String) : Option Problem :=
  if s.limit < byteCount text then some (.tooLarge (byteCount text))
  else
    match Source.read s.grammar d text with
    | .error f => some (.faulty f)
    | .ok _ => none

theorem source?_eq_none_iff (s : Settings) (d : Dialect) (text : String) :
    s.source? d text = none ↔ (s.problem? d text).isSome = true := by
  unfold source? problem?
  split
  · simp
  · cases Source.read s.grammar d text <;> simp [Except.toOption]

end Settings

namespace Scan

def sourceFile (s : Settings) (e : Entry) (d : Dialect) (text : String) : Node :=
  { plainFile s e with text := some text, source := s.source? d text }

/-- What is brought in with the text of a source file: its node, and its edges or its problem. -/
def sourceHarvest (s : Settings) (e : Entry) (d : Dialect) (text : String) : Harvest :=
  leaf (sourceFile s e d text) ((s.source? d text).toList.flatMap Source.callEdges)
    ((s.problem? d text).toList.map (FileProblem.mk e.path))

/-- What is noted on the text of a source file. -/
def readNotes (s : Settings) (e : Entry) (d : Dialect) (text : String) : List Note :=
  match s.problem? d text with
  | none => []
  | some (.tooLarge size) => [.tooLarge e.path.shown size s.limit]
  | some (.faulty f) => [.faultFound e.path.shown f, .notParsed e.path.shown f]

/-- The reading of a text always succeeds, and only notes are made on the way. -/
theorem readText_eq (s : Settings) (e : Entry) (d : Dialect) (text : String) :
    readText s e d text = ⟨(readNotes s e d text).map .noted, .ok (sourceHarvest s e d text)⟩ := by
  unfold readText readNotes sourceHarvest sourceFile Settings.source? Settings.problem? byteCount
  dsimp only
  by_cases hsize : s.limit < ((Utf8.encode text.toList).length : Int)
  · simp only [if_pos hsize]
    rfl
  · simp only [if_neg hsize]
    cases Source.read s.grammar d text with
    | error f => rfl
    | ok source => simp [Run.pure_eq_done, Run.done, Except.toOption]

/-- A file that is taken in is either no source file, or its text is fetched and read. -/
inductive Takes (s : Settings) (p : Provider) (e : Entry) : List Event → Harvest → Prop
  | plain {name : String} (hname : e.name = .text name) (hdialect : Dialect.ofPath? name = none) :
      Takes s p e [] (leaf (plainFile s e) [] [])
  | source {name text : String} {d : Dialect} (hname : e.name = .text name)
      (hdialect : Dialect.ofPath? name = some d) (hfetch : p.textOf e.target = .ok text) :
      Takes s p e (.asked (.fetch e.target) :: (readNotes s e d text).map .noted)
        (sourceHarvest s e d text)

theorem Takes.fetched {s : Settings} {p : Provider} {e : Entry} {name text : String} {d : Dialect}
    (hname : e.name = .text name) (hdialect : Dialect.ofPath? name = some d)
    (hfetch : p.fetch e.target = .ok text) :
    Takes s p e (.asked (.fetch e.target) :: (readNotes s e d text).map .noted)
      (sourceHarvest s e d text) :=
  .source hname hdialect ((p.textOf_eq_ok_iff e.target text).2 hfetch)

theorem file_gives_iff (s : Settings) (p : Provider) (e : Entry) (events : List Event)
    (h : Harvest) : (file s p e).Gives events h ↔ Takes s p e events h := by
  unfold file withText
  constructor
  · intro hgives
    split at hgives
    · rename_i name hname
      dsimp only at hgives
      split at hgives
      · rename_i hdialect
        obtain ⟨rfl, rfl⟩ := (Run.gives_done_iff _ _ _).1 hgives
        exact .plain hname hdialect
      · rename_i d hdialect
        obtain ⟨_, text, after, hasked, hread, rfl⟩ := (Run.gives_bind_iff _ _ _ _).1 hgives
        obtain ⟨rfl, hfetch⟩ := (Run.gives_fetch_iff _ _ _ _).1 hasked
        rw [Run.Gives, readText_eq] at hread
        cases hread
        exact .source hname hdialect hfetch
    · exact absurd hgives (Run.not_gives_fail _ _ _)
  · intro htakes
    cases htakes with
    | plain hname hdialect =>
      rw [hname]
      simp only [hdialect]
      exact (Run.gives_done_iff _ _ _).2 ⟨rfl, rfl⟩
    | @source name text d hname hdialect hfetch =>
      rw [hname]
      simp only [hdialect]
      have hasked : (Run.fetch p e.target).Gives [.asked (.fetch e.target)] text :=
        (Run.gives_fetch_iff _ _ _ _).2 ⟨rfl, hfetch⟩
      exact (Run.gives_bind_iff _ _ _ _).2 ⟨_, text, _, hasked, readText_eq s e d text, rfl⟩

/-! ## Taking in entries -/

theorem excluded_events (s : Settings) (e : Entry) : (excluded s e).events = [] := by
  unfold excluded withText
  split
  · rfl
  · split <;> rfl

theorem excluded_gives_iff (s : Settings) (e : Entry) (events : List Event) (b : Bool) :
    (excluded s e).Gives events b ↔ events = [] ∧ (excluded s e).result = .ok b := by
  have hevents := excluded_events s e
  constructor
  · intro h
    rw [h] at hevents ⊢
    exact ⟨hevents, rfl⟩
  · rintro ⟨rfl, h⟩
    have hgives := Run.gives_of_result h
    rwa [hevents] at hgives

/-- What a scan does with some entries when it succeeds and goes down `n` levels at most: an entry
is left out or passed over, or it is a file that is taken in, or a folder that is listed and whose
entries are taken in before the ones that follow. -/
inductive Gathers (s : Settings) (p : Provider) : Nat → List Entry → List Event → Harvest → Prop
  | nil {n : Nat} : Gathers s p n [] [] .empty
  | leftOut {n : Nat} {e : Entry} {es : List Entry} {later : List Event} {rest : Harvest}
      (hexcluded : (excluded s e).result = .ok true) (hrest : Gathers s p n es later rest) :
      Gathers s p n (e :: es) (.noted (.excluded e.path.shown) :: later) rest
  | other {n : Nat} {e : Entry} {es : List Entry} {later : List Event} {rest : Harvest}
      {label : Label} (hkept : (excluded s e).result = .ok false) (hkind : e.kind = .other label)
      (hrest : Gathers s p n es later rest) :
      Gathers s p n (e :: es) later rest
  | file {n : Nat} {e : Entry} {es : List Entry} {events later : List Event} {h rest : Harvest}
      (hkept : (excluded s e).result = .ok false) (hkind : e.kind = .file)
      (htakes : Takes s p e events h) (hrest : Gathers s p n es later rest) :
      Gathers s p n (e :: es) (.reached e.name :: events ++ later) (h ++ rest)
  | folder {n : Nat} {e : Entry} {es inside : List Entry} {events later : List Event}
      {h rest : Harvest} (hkept : (excluded s e).result = .ok false) (hkind : e.kind = .folder)
      (hlist : p.list e.path = .ok inside) (hinside : Gathers s p n inside events h)
      (hrest : Gathers s p (n + 1) es later rest) :
      Gathers s p (n + 1) (e :: es) (.asked (.list e.path) :: events ++ later)
        (⟨[.node (folderNode s e.name e.path) h.nodes], h.edges, h.problems⟩ ++ rest)

/-- One entry and those that follow it, when the scan of a folder is known. -/
theorem entries_cons_gives_iff (s : Settings) (p : Provider) (folder : Label → Run Harvest)
    (e : Entry) (es : List Entry) (events : List Event) (h : Harvest) :
    (entries s p folder (e :: es)).Gives events h ↔
      ∃ before first later rest, (entry s p folder e).Gives before first ∧
        (entries s p folder es).Gives later rest ∧
        events = before ++ later ∧ h = first ++ rest := by
  conv => lhs; unfold entries
  simp only [Run.gives_bind_iff, Run.gives_done_iff]
  constructor
  · rintro ⟨before, first, _, hfirst, ⟨later, rest, _, hrest, ⟨rfl, rfl⟩, rfl⟩, rfl⟩
    exact ⟨before, first, later, rest, hfirst, hrest, by simp, rfl⟩
  · rintro ⟨before, first, later, rest, hfirst, hrest, rfl, rfl⟩
    exact ⟨before, first, later, hfirst, ⟨later, rest, [], hrest, ⟨rfl, rfl⟩, by simp⟩, rfl⟩

theorem entry_gives_iff (s : Settings) (p : Provider) (folder : Label → Run Harvest) (e : Entry)
    (events : List Event) (h : Harvest) :
    (entry s p folder e).Gives events h ↔
      ((excluded s e).result = .ok true ∧ events = [.noted (.excluded e.path.shown)] ∧
          h = .empty) ∨
        (excluded s e).result = .ok false ∧
          match e.kind with
          | .file => ∃ later, Takes s p e later h ∧ events = .reached e.name :: later
          | .folder => ∃ inside, (folder e.path).Gives events inside ∧
              h = ⟨[.node (folderNode s e.name e.path) inside.nodes], inside.edges, inside.problems⟩
          | .other _ => events = [] ∧ h = .empty := by
  unfold entry
  rw [Run.gives_bind_iff]
  simp only [excluded_gives_iff]
  constructor
  · rintro ⟨_, b, after, ⟨rfl, hexcluded⟩, hafter, rfl⟩
    cases b with
    | true =>
      simp only [if_true, Run.gives_bind_iff, Run.gives_emit_iff, Run.gives_done_iff] at hafter
      obtain ⟨_, _, _, rfl, ⟨rfl, rfl⟩, rfl⟩ := hafter
      exact Or.inl ⟨hexcluded, rfl, rfl⟩
    | false =>
      refine Or.inr ⟨hexcluded, ?_⟩
      simp only [Bool.false_eq_true, if_false] at hafter
      cases hkind : e.kind with
      | file =>
        simp only [hkind, Run.gives_bind_iff, Run.gives_emit_iff, file_gives_iff] at hafter
        obtain ⟨_, _, later, rfl, htakes, rfl⟩ := hafter
        exact ⟨later, htakes, rfl⟩
      | folder =>
        simp only [hkind, Run.gives_bind_iff, Run.gives_done_iff] at hafter
        obtain ⟨before, inside, _, hinside, ⟨rfl, rfl⟩, rfl⟩ := hafter
        exact ⟨inside, by simpa using hinside, rfl⟩
      | other label =>
        simp only [hkind, Run.gives_done_iff] at hafter
        obtain ⟨rfl, rfl⟩ := hafter
        exact ⟨rfl, rfl⟩
  · rintro (⟨hexcluded, rfl, rfl⟩ | ⟨hkept, hafter⟩)
    · refine ⟨[], true, _, ⟨rfl, hexcluded⟩, ?_, rfl⟩
      rfl
    · refine ⟨[], false, events, ⟨rfl, hkept⟩, ?_, rfl⟩
      simp only [Bool.false_eq_true, if_false]
      cases hkind : e.kind with
      | file =>
        simp only [hkind] at hafter
        obtain ⟨later, htakes, rfl⟩ := hafter
        refine (Run.gives_bind_iff _ _ _ _).2 ⟨[.reached e.name], (), later, rfl, ?_, rfl⟩
        exact (file_gives_iff s p e later h).2 htakes
      | folder =>
        simp only [hkind] at hafter
        obtain ⟨inside, hinside, rfl⟩ := hafter
        exact (Run.gives_bind_iff _ _ _ _).2 ⟨events, inside, [], hinside, rfl, by simp⟩
      | other label =>
        simp only [hkind] at hafter
        obtain ⟨rfl, rfl⟩ := hafter
        rfl

theorem folder_gives_iff (s : Settings) (p : Provider) (n : Nat) (path : Label)
    (events : List Event) (h : Harvest) :
    (folder s p (n + 1) path).Gives events h ↔
      ∃ es later, p.list path = .ok es ∧ (entries s p (folder s p n) es).Gives later h ∧
        events = .asked (.list path) :: later := by
  conv => lhs; unfold folder
  simp only [Run.gives_bind_iff, Run.gives_list_iff]
  constructor
  · rintro ⟨_, es, later, ⟨rfl, hlist⟩, hentries, rfl⟩
    exact ⟨es, later, hlist, hentries, rfl⟩
  · rintro ⟨es, later, hlist, hentries, rfl⟩
    exact ⟨_, es, later, ⟨rfl, hlist⟩, hentries, rfl⟩

theorem not_folder_zero_gives (s : Settings) (p : Provider) (path : Label) (events : List Event)
    (h : Harvest) : ¬ (folder s p 0 path).Gives events h :=
  Run.not_gives_fail _ _ _

/-- The scan of entries gathers if the scans of the folders among them do. -/
theorem gathers_of_folders {s : Settings} {p : Provider} {n : Nat}
    (hfolders : ∀ path events h, (folder s p n path).Gives events h →
      ∃ m es later, n = m + 1 ∧ p.list path = .ok es ∧ Gathers s p m es later h ∧
        events = .asked (.list path) :: later)
    {es : List Entry} {events : List Event} {h : Harvest}
    (hgives : (entries s p (folder s p n) es).Gives events h) : Gathers s p n es events h := by
  induction es generalizing events h with
  | nil =>
    obtain ⟨rfl, rfl⟩ := (Run.gives_done_iff _ _ _).1 hgives
    exact .nil
  | cons e es ih =>
    obtain ⟨before, first, later, rest, hentry, hrest, rfl, rfl⟩ :=
      (entries_cons_gives_iff _ _ _ _ _ _ _).1 hgives
    rcases (entry_gives_iff _ _ _ _ _ _).1 hentry with ⟨hexcluded, rfl, rfl⟩ | ⟨hkept, hentry⟩
    · exact .leftOut hexcluded (ih hrest)
    · cases hkind : e.kind with
      | file =>
        simp only [hkind] at hentry
        obtain ⟨events, htakes, rfl⟩ := hentry
        exact .file hkept hkind htakes (ih hrest)
      | folder =>
        simp only [hkind] at hentry
        obtain ⟨inside, hinside, rfl⟩ := hentry
        obtain ⟨m, _, events, rfl, hlist, hgathers, rfl⟩ := hfolders _ _ _ hinside
        exact .folder hkept hkind hlist hgathers (ih hrest)
      | other label =>
        simp only [hkind] at hentry
        obtain ⟨rfl, rfl⟩ := hentry
        exact .other hkept hkind (ih hrest)

theorem gathers_of_entries {s : Settings} {p : Provider} {n : Nat} {es : List Entry}
    {events : List Event} {h : Harvest} (hgives : (entries s p (folder s p n) es).Gives events h) :
    Gathers s p n es events h := by
  -- the scan of a folder and that of its entries call each other, one level down each time
  induction n generalizing es events h with
  | zero =>
    refine gathers_of_folders ?_ hgives
    intro path events h hfolder
    exact absurd hfolder (not_folder_zero_gives _ _ _ _ _)
  | succ n ih =>
    refine gathers_of_folders ?_ hgives
    intro path events h hfolder
    obtain ⟨es, later, hlist, hentries, rfl⟩ := (folder_gives_iff _ _ _ _ _ _).1 hfolder
    exact ⟨n, es, later, rfl, hlist, ih hentries, rfl⟩

theorem entries_of_gathers {s : Settings} {p : Provider} {n : Nat} {es : List Entry}
    {events : List Event} {h : Harvest} (hgathers : Gathers s p n es events h) :
    (entries s p (folder s p n) es).Gives events h := by
  induction hgathers with
  | nil => rfl
  | leftOut hexcluded _ ih =>
    refine (entries_cons_gives_iff _ _ _ _ _ _ _).2 ⟨[_], .empty, _, _, ?_, ih, rfl, rfl⟩
    exact (entry_gives_iff _ _ _ _ _ _).2 (Or.inl ⟨hexcluded, rfl, rfl⟩)
  | other hkept hkind _ ih =>
    refine (entries_cons_gives_iff _ _ _ _ _ _ _).2 ⟨[], .empty, _, _, ?_, ih, rfl, rfl⟩
    refine (entry_gives_iff _ _ _ _ _ _).2 (Or.inr ⟨hkept, ?_⟩)
    rw [hkind]
    exact ⟨rfl, rfl⟩
  | file hkept hkind htakes _ ih =>
    refine (entries_cons_gives_iff _ _ _ _ _ _ _).2 ⟨_, _, _, _, ?_, ih, rfl, rfl⟩
    refine (entry_gives_iff _ _ _ _ _ _).2 (Or.inr ⟨hkept, ?_⟩)
    rw [hkind]
    exact ⟨_, htakes, rfl⟩
  | folder hkept hkind hlist _ _ ihinside ih =>
    refine (entries_cons_gives_iff _ _ _ _ _ _ _).2 ⟨_, _, _, _, ?_, ih, rfl, rfl⟩
    refine (entry_gives_iff _ _ _ _ _ _).2 (Or.inr ⟨hkept, ?_⟩)
    rw [hkind]
    exact ⟨_, (folder_gives_iff _ _ _ _ _ _).2 ⟨_, _, hlist, ihinside, rfl⟩, rfl⟩

/-! ## Whole scans -/

theorem startName_events (path : Label) : (startName path).events = [] := by
  unfold startName withText
  split
  · rfl
  · split <;> rfl

/-- A scan that succeeds has a name for the folder it starts from, and gathers what the provider
lists there. -/
theorem run_gives_iff (s : Settings) (p : Provider) (path : Label) (events : List Event)
    (scan : Scan) :
    (run s p path).Gives events scan ↔ ∃ n name es later h, p.depth = n + 1 ∧
      (startName path).result = .ok name ∧ p.list path = .ok es ∧ Gathers s p n es later h ∧
      events = .asked (.list path) :: later ∧
      scan = ⟨.node (folderNode s name path) h.nodes, h.edges, h.problems⟩ := by
  have hname := startName_events path
  unfold run
  simp only [Run.gives_bind_iff, Run.gives_done_iff]
  constructor
  · rintro ⟨_, name, _, hstart, ⟨before, h, _, hfolder, ⟨rfl, rfl⟩, rfl⟩, rfl⟩
    rw [hstart] at hname
    cases hdepth : p.depth with
    | zero =>
      rw [hdepth] at hfolder
      exact absurd hfolder (not_folder_zero_gives _ _ _ _ _)
    | succ n =>
      rw [hdepth] at hfolder
      obtain ⟨es, later, hlist, hentries, rfl⟩ := (folder_gives_iff _ _ _ _ _ _).1 hfolder
      have hgathers := gathers_of_entries hentries
      refine ⟨n, name, es, later, h, rfl, by rw [hstart], hlist, hgathers, ?_, rfl⟩
      simp only at hname
      simp [hname]
  · rintro ⟨n, name, es, later, h, hdepth, hstart, hlist, hgathers, rfl, rfl⟩
    have hgives := Run.gives_of_result hstart
    rw [hname] at hgives
    have hfolder : (folder s p p.depth path).Gives (.asked (.list path) :: later) h := by
      rw [hdepth]
      exact (folder_gives_iff _ _ _ _ _ _).2 ⟨es, later, hlist, entries_of_gathers hgathers, rfl⟩
    exact ⟨[], name, _, hgives, ⟨_, h, [], hfolder, ⟨rfl, rfl⟩, rfl⟩, by simp⟩

end Scan

end CodeAtlas
