-- What a scan asks the web for. Every request is for the folder that the scan starts from, or for
-- an entry that was listed and is not left out. A source file is asked for by its reference; one
-- that has none is asked for by its path, and only one that has neither stops the scan.
import CodeAtlas.Proofs.Scan.Endings
import CodeAtlas.Proofs.Scan.Itinerary
import CodeAtlas.Web.Session
import CodeAtlas.Web.Url

namespace CodeAtlas

namespace Entry

/-- The entry is a file whose name asks for a dialect. -/
def isSource (e : Entry) : Bool := e.kind = .file && (e.name.text?.bind Dialect.ofPath?).isSome

/-- The request asks for the content of the entry: it is the reference, or the path of an entry
that has no reference. -/
def AskedBy (e : Entry) (request : Label) : Prop :=
  e.reference.isVoid = false ∧ request = e.reference ∨
    e.reference.isVoid = true ∧ e.path.isVoid = false ∧ request = e.path

theorem askedBy_iff (e : Entry) (request : Label) :
    e.AskedBy request ↔ e.target.isVoid = false ∧ request = e.target := by
  unfold AskedBy target
  cases hvoid : e.reference.isVoid <;> simp [hvoid]

theorem isVoid_target_iff (e : Entry) :
    e.target.isVoid = true ↔ e.reference.isVoid = true ∧ e.path.isVoid = true := by
  unfold target
  cases hvoid : e.reference.isVoid <;> simp [hvoid]

theorem call?_eq_some_iff (e : Entry) (c : Call) :
    e.call? = some c ↔ e.kind = .folder ∧ c = .list e.path ∨
      e.isSource = true ∧ c = .fetch e.target := by
  unfold call? isSource
  cases e.kind <;> simp [@eq_comm _ c]

end Entry

namespace Run

variable {α β : Type} {s : Settings} {p : Provider} {start : Label} {given : List Entry}

/-! ## The grounds of calls -/

/-- There are grounds for a call: it lists the start, or is the call for an entry that was given or
listed before and is not left out. -/
def Grounds (s : Settings) (p : Provider) (start : Label) (given : List Entry) (calls : List Call)
    (c : Call) : Prop :=
  c = .list start ∨
    ∃ e, (e ∈ given ∨ p.Shows calls e) ∧ e.isExcluded s = false ∧ e.call? = some c

theorem Grounds.mono {given' : List Entry} {calls calls' : List Call} {c : Call}
    (h : Grounds s p start given calls c) (hcalls : calls ⊆ calls')
    (hgiven : ∀ e ∈ given, e ∈ given' ∨ p.Shows calls' e) :
    Grounds s p start given' calls' c := by
  rcases h with hstart | ⟨e, he | hshown, hkept, hcall⟩
  · exact .inl hstart
  · exact .inr ⟨e, hgiven e he, hkept, hcall⟩
  · exact .inr ⟨e, .inr (hshown.mono hcalls), hkept, hcall⟩

/-- A run that starts with some entries given, and has grounds for all its calls. If a call fails,
then the run fails as the call does; otherwise it can only fail over a label, or for folders that
are nested too deeply. -/
structure Grounded (s : Settings) (p : Provider) (start : Label) (given : List Entry)
    (r : Run α) : Prop where
  calls : ∀ c ∈ r.calls, Grounds s p start given r.calls c
  stops : ∀ c ∈ r.calls, ∀ f, p.stop? c = some f → r.result = .error f
  failure : ∀ f, r.result = .error f → (∃ c ∈ r.calls, p.stop? c = some f) ∨
    (∃ fault, f = .label fault) ∨ ∃ path, f = .tooDeep path

theorem Grounded.bind {r : Run α} {f : α → Run β} {g : α → List Entry}
    (hr : r.Grounded s p start given)
    (hf : ∀ a, r.result = .ok a → (f a).Grounded s p start (g a) ∧
      ∀ e ∈ g a, e ∈ given ∨ p.Shows r.calls e) : (r >>= f).Grounded s p start given := by
  cases hresult : r.result with
  | error e =>
    obtain ⟨hcalls, hresult'⟩ := calls_next_of_error hresult f
    refine ⟨?_, ?_, ?_⟩
    · rw [hcalls]
      exact hr.calls
    · intro c hc f' hf'
      rw [hcalls] at hc
      cases hresult.symm.trans (hr.stops c hc f' hf')
      exact hresult'
    · intro f' hf'
      cases hresult'.symm.trans hf'
      rw [hcalls]
      exact hr.failure e hresult
  | ok a =>
    obtain ⟨hcalls, hresult'⟩ := calls_next_of_ok hresult f
    obtain ⟨hfa, hknown⟩ := hf a hresult
    refine ⟨?_, ?_, ?_⟩
    · intro c hc
      rw [hcalls] at hc ⊢
      rcases List.mem_append.1 hc with hc | hc
      · exact (hr.calls c hc).mono (List.subset_append_left _ _) fun _ he => .inl he
      · -- what is given to the second run was given to the first or listed by it
        refine (hfa.calls c hc).mono (List.subset_append_right _ _) fun e he => ?_
        exact (hknown e he).imp_right fun hshown => hshown.mono (List.subset_append_left _ _)
    · intro c hc f' hf'
      rw [hcalls] at hc
      rw [hresult']
      rcases List.mem_append.1 hc with hc | hc
      · cases hresult.symm.trans (hr.stops c hc f' hf')
      · exact hfa.stops c hc f' hf'
    · intro e he
      rw [hresult'] at he
      rw [hcalls]
      rcases hfa.failure e he with ⟨c, hc, hfails⟩ | hother
      · exact .inl ⟨c, List.mem_append_right _ hc, hfails⟩
      · exact .inr hother

/-- One run after another, when nothing new is given. -/
theorem Grounded.andThen {r : Run α} {f : α → Run β} (hr : r.Grounded s p start given)
    (hf : ∀ a, r.result = .ok a → (f a).Grounded s p start given) :
    (r >>= f).Grounded s p start given :=
  hr.bind fun a ha => ⟨hf a ha, fun _ he => .inl he⟩

/-- A run that asks for nothing and succeeds. -/
theorem grounded_of_ok {r : Run α} {a : α} (hcalls : r.calls = []) (hresult : r.result = .ok a) :
    r.Grounded s p start given := by
  refine ⟨by simp [hcalls], by simp [hcalls], ?_⟩
  intro f hf
  cases hresult.symm.trans hf

theorem grounded_fail {f : Failure} (hf : (∃ fault, f = .label fault) ∨ ∃ path, f = .tooDeep path) :
    (fail f : Run α).Grounded s p start given := by
  refine ⟨by simp [fail, calls], by simp [fail, calls], ?_⟩
  rintro _ ⟨⟩
  exact .inr hf

/-- A run of one call, for which there are grounds. -/
theorem grounded_of_call {r : Run α} {c : Call} (hcalls : r.calls = [c])
    (hc : Grounds s p start given [] c)
    (hresult : ∀ f, p.stop? c = some f ↔ r.result = .error f) :
    r.Grounded s p start given := by
  refine ⟨?_, ?_, ?_⟩
  · intro c' hc'
    rw [hcalls, List.mem_singleton] at hc'
    subst hc'
    exact hc.mono (List.nil_subset _) fun _ he => .inl he
  · intro c' hc' f hf
    rw [hcalls, List.mem_singleton] at hc'
    subst hc'
    exact (hresult f).1 hf
  · intro f hf
    exact .inl ⟨c, by simp [hcalls], (hresult f).2 hf⟩

theorem grounded_list {path : Label} (hpath : Grounds s p start given [] (.list path)) :
    (list p path).Grounded s p start given :=
  grounded_of_call rfl hpath (p.stop?_list_iff path)

theorem grounded_fetch {reference : Label}
    (hreference : Grounds s p start given [] (.fetch reference)) :
    (fetch p reference).Grounded s p start given :=
  grounded_of_call rfl hreference (p.stop?_fetch_iff reference)

end Run

namespace Scan

variable {s : Settings} {p : Provider} {start : Label} {given es : List Entry} {e : Entry}

/-! ## Scans have grounds for their calls -/

theorem grounded_steps (s : Settings) (p : Provider) (start : Label) :
    Steps s p fun _ given r => r.Grounded s p start given where
  ok := Run.grounded_of_ok
  odd fault _ _ := Run.grounded_fail (.inl ⟨fault, rfl⟩)
  fetch {given e name d} he hkept hkind hname hdialect := by
    have hsource : e.isSource = true := by
      simp [Entry.isSource, hkind, hname, Json.text?, hdialect]
    refine Run.grounded_fetch (.inr ⟨e, .inl he, ((excluded_eq_ok_iff s e false).1 hkept).2, ?_⟩)
    exact (e.call?_eq_some_iff _).2 (.inr ⟨hsource, rfl⟩)
  andThen := Run.Grounded.andThen

theorem grounded_folder {n : Nat} {path : Label}
    (hpath : Run.Grounds s p start given [] (.list path)) :
    (folder s p n path).Grounded s p start given := by
  induction n generalizing path given with
  | zero => exact Run.grounded_fail (.inr ⟨path, rfl⟩)
  | succ n ih =>
    unfold folder
    refine (Run.grounded_list hpath).bind (g := fun es => es) fun es hes => ⟨?_, ?_⟩
    · refine (grounded_steps s p start).entries (List.Subset.refl es) ?_
      intro e he hkind hkept
      refine ih (.inr ⟨e, .inl he, ((excluded_eq_ok_iff s e false).1 hkept).2, ?_⟩)
      exact (e.call?_eq_some_iff _).2 (.inl ⟨hkind, rfl⟩)
    · intro e he
      exact .inr ⟨path, es, List.mem_cons_self, hes, he⟩

theorem grounded_run (s : Settings) (p : Provider) (path : Label) :
    (run s p path).Grounded s p path [] := by
  have hname : (startName path).Grounded s p path [] := by
    unfold startName
    split
    · exact Run.grounded_of_ok rfl rfl
    · unfold withText
      split
      · exact Run.grounded_of_ok rfl rfl
      · exact Run.grounded_fail (.inl ⟨_, rfl⟩)
  refine hname.andThen fun name _ => ?_
  exact (grounded_folder (.inl rfl)).andThen fun harvest _ => Run.grounded_of_ok rfl rfl

/-! ## Scans that succeed ask for all they need -/

/-- Every entry that is given or listed, and not left out, is asked for by one of the calls. -/
def Complete (s : Settings) (p : Provider) (given : List Entry) (calls : List Call) : Prop :=
  ∀ e, e ∈ given ∨ p.Shows calls e → e.isExcluded s = false →
    ∀ c, e.call? = some c → c ∈ calls

variable {calls calls' : List Call}

theorem complete_of_notMem (hcalls : ∀ path, .list path ∉ calls) : Complete s p [] calls := by
  rintro e (he | ⟨path, _, hpath, -⟩)
  · cases he
  · exact absurd hpath (hcalls path)

theorem Complete.cons (h : Complete s p given calls)
    (he : e.isExcluded s = false → ∀ c, e.call? = some c → c ∈ calls) :
    Complete s p (e :: given) calls := by
  rintro e' (hmem | hshown)
  · rcases List.mem_cons.1 hmem with rfl | hmem
    · exact he
    · exact h e' (.inl hmem)
  · exact h e' (.inr hshown)

theorem Complete.append (h : Complete s p given calls) (h' : Complete s p es calls') :
    Complete s p (given ++ es) (calls ++ calls') := by
  have hboth : ∀ e, e ∈ given ++ es ∨ p.Shows (calls ++ calls') e →
      (e ∈ given ∨ p.Shows calls e) ∨ (e ∈ es ∨ p.Shows calls' e) := by
    rintro e (he | ⟨path, listed, hpath, hlist, he⟩)
    · rcases List.mem_append.1 he with he | he
      · exact .inl (.inl he)
      · exact .inr (.inl he)
    · rcases List.mem_append.1 hpath with hpath | hpath
      · exact .inl (.inr ⟨path, listed, hpath, hlist, he⟩)
      · exact .inr (.inr ⟨path, listed, hpath, hlist, he⟩)
  intro e he hkept c hcall
  rcases hboth e he with he | he
  · exact List.mem_append_left _ (h e he hkept c hcall)
  · exact List.mem_append_right _ (h' e he hkept c hcall)

/-- The entries of a folder need not be given once it is listed. -/
theorem Complete.listed {path : Label} (hlist : p.list path = .ok given)
    (h : Complete s p given calls) : Complete s p [] (.list path :: calls) := by
  rintro e (he | ⟨path', listed, hpath, hlisted, he⟩) hkept c hcall
  · cases he
  · refine List.mem_cons_of_mem _ ?_
    rcases List.mem_cons.1 hpath with heq | hpath
    · cases heq
      cases hlist.symm.trans hlisted
      exact h e (.inl he) hkept c hcall
    · exact h e (.inr ⟨path', listed, hpath, hlisted, he⟩) hkept c hcall

theorem complete_of_gathers {n : Nat} {events : List Event} {h : Harvest}
    (hgathers : Gathers s p n es events h) : Complete s p es (events.filterMap Event.call?) := by
  induction hgathers with
  | nil => exact complete_of_notMem (by simp)
  | @leftOut n e es later rest hexcluded _ ih =>
    refine Complete.cons ih fun hkept => ?_
    cases hkept.symm.trans ((excluded_eq_ok_iff s e true).1 hexcluded).2
  | @other n e es later rest label _ hkind _ ih =>
    refine Complete.cons ih fun _ c hcall => ?_
    simp [Entry.call?, hkind] at hcall
  | @file n e es events later h rest _ hkind htakes _ ih =>
    have hcalls : (Event.reached e.name :: events ++ later).filterMap Event.call? =
        e.call?.toList ++ later.filterMap Event.call? := by
      rw [List.filterMap_append, ← calls_of_takes htakes hkind]
      rfl
    have hfetches : ∀ path, .list path ∉ e.call?.toList := by
      intro path hpath
      rcases (e.call?_eq_some_iff _).1 (Option.mem_toList.1 hpath) with ⟨hfolder, -⟩ | ⟨-, hfetch⟩
      · cases hkind.symm.trans hfolder
      · cases hfetch
    rw [hcalls]
    -- a file lists nothing, so that no entries come up that would have to be asked for
    refine ((complete_of_notMem hfetches).append ih).cons fun _ c hcall => ?_
    simp [hcall]
  | @folder n e es inside events later h rest _ hkind hlist _ _ ihinside ih =>
    have hcalls : (Event.asked (.list e.path) :: events ++ later).filterMap Event.call? =
        .list e.path :: events.filterMap Event.call? ++ later.filterMap Event.call? := by
      rw [List.filterMap_append]
      rfl
    rw [hcalls]
    refine ((Complete.listed hlist ihinside).append ih).cons fun _ c hcall => ?_
    rcases (e.call?_eq_some_iff c).1 hcall with ⟨-, rfl⟩ | ⟨hsource, -⟩
    · simp
    · simp [Entry.isSource, hkind] at hsource

theorem complete_of_run {path : Label} {scan : Scan} (hrun : (run s p path).result = .ok scan) :
    Complete s p [] (run s p path).calls := by
  obtain ⟨n, name, es, later, harvest, _, _, hlist, hgathers, hevents, -⟩ :=
    (run_gives_iff s p path _ scan).1 (Run.gives_of_result hrun)
  rw [Run.calls, hevents]
  exact (complete_of_gathers hgathers).listed hlist

end Scan

/-! ## Failures of a repository -/

/-- The failure says that there is no reference to a text. -/
def Failure.isNoDownload : Failure → Bool
  | .unavailable _ .noDownload => true
  | _ => false

theorem Web.isNoDownload_of_requestFault? {web : Web} {request : Label} {f : Failure}
    (h : web.requestFault? request = some f) : f.isNoDownload = false := by
  cases request with
  | text url =>
    obtain ⟨r, -, rfl⟩ := Option.map_eq_some_iff.1 h
    rfl
  | _ =>
    cases h
    rfl

theorem Web.isNoDownload_of_get {web : Web} {request : Label} {f : Failure}
    (h : web.get request = .error f) : f.isNoDownload = false := by
  unfold get at h
  split at h
  · rename_i fault hfault
    cases h
    exact isNoDownload_of_requestFault? hfault
  · split at h
    · cases h
      rfl
    · split at h
      · cases h
        rfl
      · split at h
        · cases h
        · cases h
          rfl

/-- A computation in steps fails as one of its steps does. -/
theorem Failure.of_bind {α β : Type} {x : Except Failure α} {g : α → Except Failure β} {f : Failure}
    (h : x >>= g = .error f) : x = .error f ∨ ∃ a, g a = .error f := by
  cases x with
  | error e =>
    cases h
    exact .inl rfl
  | ok a => exact .inr ⟨a, h⟩

namespace Repository

theorem isNoDownload_of_member {item : Json} {name : String} {f : Failure}
    (h : member item name = .error f) : f.isNoDownload = false := by
  unfold member at h
  split at h
  · cases h
  · cases h
    rfl

theorem isNoDownload_of_entryOf {item : Json} {f : Failure} (h : entryOf item = .error f) :
    f.isNoDownload = false := by
  have hmembers : ∀ kind reference, (do
      let name ← member item "name"
      let path ← member item "path"
      return some (Entry.mk kind name path reference)) = Except.error f →
        f.isNoDownload = false := by
    intro kind reference h
    rcases Failure.of_bind h with h | ⟨name, h⟩
    · exact isNoDownload_of_member h
    · rcases Failure.of_bind h with h | ⟨path, h⟩
      · exact isNoDownload_of_member h
      · cases h
  unfold entryOf at h
  split at h
  · split at h
    · exact hmembers _ _ h
    · exact hmembers _ _ h
    · cases h
  · cases h
    rfl

theorem isNoDownload_of_entriesOf {items : List Json} {f : Failure}
    (h : entriesOf items = .error f) : f.isNoDownload = false := by
  induction items with
  | nil => cases h
  | cons item items ih =>
    rcases Failure.of_bind h with h | ⟨entry, h⟩
    · exact isNoDownload_of_entryOf h
    · rcases Failure.of_bind h with h | ⟨entries, h⟩
      · exact ih h
      · cases h

theorem isNoDownload_of_list {r : Repository} {web : Web} {path : Label} {f : Failure}
    (h : r.list web path = .error f) : f.isNoDownload = false := by
  rcases Failure.of_bind h with h | ⟨content, h⟩
  · exact Web.isNoDownload_of_get h
  · unfold listing at h
    split at h
    · cases h
      rfl
    · exact isNoDownload_of_entriesOf h
    · exact isNoDownload_of_entriesOf h

theorem fetch_of_isVoid {r : Repository} {web : Web} {reference : Label}
    (h : reference.isVoid = true) :
    r.fetch web reference = .error (.unavailable (.text r.repo) .noDownload) := by
  unfold fetch
  rw [h]
  rfl

theorem isVoid_of_fetch {r : Repository} {web : Web} {reference : Label} {f : Failure}
    (h : r.fetch web reference = .error f) (hf : f.isNoDownload = true) :
    reference.isVoid = true := by
  cases hvoid : reference.isVoid with
  | true => rfl
  | false =>
    unfold fetch at h
    simp only [hvoid, Bool.false_eq_true, if_false] at h
    rcases Failure.of_bind h with h | ⟨content, h⟩
    · cases hf.symm.trans (Web.isNoDownload_of_get h)
    · cases h

theorem request?_fetch_iff (r : Repository) (reference request : Label) :
    r.request? (.fetch reference) = some request ↔
      reference.isVoid = false ∧ request = reference := by
  unfold request?
  cases hvoid : reference.isVoid <;> simp [hvoid, @eq_comm _ request]

/-- The only calls that fail for want of a reference are those that fetch a void label. -/
theorem stop?_eq_noDownload_iff (r : Repository) (web : Web) (c : Call) :
    (Provider.ofRepository web r).stop? c = some (.unavailable (.text r.repo) .noDownload) ↔
      ∃ reference, c = .fetch reference ∧ reference.isVoid = true := by
  constructor
  · intro h
    cases c with
    | list path =>
      have hlist : r.list web path = _ := (Provider.stop?_list_iff _ path _).1 h
      cases isNoDownload_of_list hlist
    | fetch reference =>
      have hfetch := (Provider.stop?_fetch_iff _ reference _).1 h
      rw [Provider.textOf_ofRepository] at hfetch
      exact ⟨reference, rfl, isVoid_of_fetch hfetch rfl⟩
  · rintro ⟨reference, rfl, hvoid⟩
    rw [Provider.stop?_fetch_iff, Provider.textOf_ofRepository]
    exact fetch_of_isVoid hvoid

end Repository

namespace Scan

/-! ## The requests of a scan -/

/-- The scan from a path lists the entry, and the rules do not leave it out. -/
def Meets (s : Settings) (p : Provider) (path : Label) (e : Entry) : Prop :=
  p.Shows (run s p path).calls e ∧ e.isExcluded s = false

theorem exists_of_fetch_mem {s : Settings} {p : Provider} {path reference : Label}
    (h : .fetch reference ∈ (run s p path).calls) :
    ∃ e, Meets s p path e ∧ e.isSource = true ∧ reference = e.target := by
  rcases (grounded_run s p path).calls _ h with hstart | ⟨e, he | hshown, hkept, hcall⟩
  · cases hstart
  · cases he
  · rcases (e.call?_eq_some_iff _).1 hcall with ⟨-, heq⟩ | ⟨hsource, heq⟩
    · cases heq
    · exact ⟨e, ⟨hshown, hkept⟩, hsource, Call.fetch.inj heq⟩

theorem exists_of_list_mem {s : Settings} {p : Provider} {path folder : Label}
    (h : .list folder ∈ (run s p path).calls) :
    folder = path ∨ ∃ e, Meets s p path e ∧ e.kind = .folder ∧ e.path = folder := by
  rcases (grounded_run s p path).calls _ h with hstart | ⟨e, he | hshown, hkept, hcall⟩
  · exact .inl (Call.list.inj hstart)
  · cases he
  · rcases (e.call?_eq_some_iff _).1 hcall with ⟨hkind, heq⟩ | ⟨-, heq⟩
    · exact .inr ⟨e, ⟨hshown, hkept⟩, hkind, (Call.list.inj heq).symm⟩
    · cases heq

/-- Every request of a scan of a repository, whether it succeeds or fails, lists the folder it
starts from or a folder that it meets, or asks for a source file that it meets, by the reference of
the file or, if it has none, by its path. A scan that succeeds asks for every source file that it
meets. It fails for want of a reference exactly if it comes to a source file that has neither a
reference nor a path. -/
theorem requests_come_from_listings (s : Settings) (web : Web) (r : Repository) (path : Label) :
    (∀ request ∈ r.requests (run s (.ofRepository web r) path),
      (∃ folder, request = .text (r.listingUrl folder) ∧ (folder = path ∨
        ∃ e, Meets s (.ofRepository web r) path e ∧ e.kind = .folder ∧ e.path = folder)) ∨
      ∃ e, Meets s (.ofRepository web r) path e ∧ e.isSource = true ∧ e.AskedBy request) ∧
    (∀ scan, (run s (.ofRepository web r) path).result = .ok scan →
      ∀ e, Meets s (.ofRepository web r) path e → e.isSource = true →
        ∃ request ∈ r.requests (run s (.ofRepository web r) path), e.AskedBy request) ∧
    ((run s (.ofRepository web r) path).result =
        .error (.unavailable (.text r.repo) .noDownload) ↔
      ∃ e, Meets s (.ofRepository web r) path e ∧ e.isSource = true ∧
        e.reference.isVoid = true ∧ e.path.isVoid = true ∧
        .fetch e.target ∈ (run s (.ofRepository web r) path).calls) := by
  have hgrounded := grounded_run s (.ofRepository web r) path
  refine ⟨?_, ?_, ?_⟩
  · intro request hrequest
    obtain ⟨c, hc, hmade⟩ := List.mem_filterMap.1 hrequest
    cases c with
    | list folder =>
      cases hmade
      exact .inl ⟨folder, rfl, exists_of_list_mem hc⟩
    | fetch reference =>
      obtain ⟨e, hmeets, hsource, rfl⟩ := exists_of_fetch_mem hc
      rw [Repository.request?_fetch_iff, ← Entry.askedBy_iff] at hmade
      exact .inr ⟨e, hmeets, hsource, hmade⟩
  · intro scan hscan e ⟨hshown, hkept⟩ hsource
    have hcall : .fetch e.target ∈ (run s (.ofRepository web r) path).calls :=
      complete_of_run hscan e (.inr hshown) hkept _
        ((e.call?_eq_some_iff _).2 (.inr ⟨hsource, rfl⟩))
    have hvoid : e.target.isVoid = false := by
      rw [← Bool.not_eq_true]
      intro hvoid
      have hfails := (r.stop?_eq_noDownload_iff web (.fetch e.target)).2 ⟨_, rfl, hvoid⟩
      cases hscan.symm.trans (hgrounded.stops _ hcall _ hfails)
    have hmade := (r.request?_fetch_iff e.target e.target).2 ⟨hvoid, rfl⟩
    exact ⟨e.target, List.mem_filterMap.2 ⟨_, hcall, hmade⟩, (e.askedBy_iff _).2 ⟨hvoid, rfl⟩⟩
  · constructor
    · intro hfails
      rcases hgrounded.failure _ hfails with ⟨c, hc, hcfails⟩ | ⟨_, hlabel⟩ | ⟨_, hdeep⟩
      · obtain ⟨reference, rfl, hvoid⟩ := (r.stop?_eq_noDownload_iff web c).1 hcfails
        obtain ⟨e, hmeets, hsource, rfl⟩ := exists_of_fetch_mem hc
        obtain ⟨hreference, hpath⟩ := e.isVoid_target_iff.1 hvoid
        exact ⟨e, hmeets, hsource, hreference, hpath, hc⟩
      · cases hlabel
      · cases hdeep
    · rintro ⟨e, -, -, hreference, hpath, hc⟩
      have hvoid := e.isVoid_target_iff.2 ⟨hreference, hpath⟩
      exact hgrounded.stops _ hc _ ((r.stop?_eq_noDownload_iff web _).2 ⟨_, rfl, hvoid⟩)

/-- A repository with one source file, which is listed without a reference; but its path leads to
a text. -/
def unreferencedWeb : Web :=
  .ofReplies
    [("/repos/o/r/contents/", .answer 200 (.json (.list [.object [("type", .text "file"),
        ("name", .text "a.ts"), ("path", .text "a.ts"), ("download_url", .null)]]))),
      ("a.ts", .answer 200 (.bytes []))]

/-- A source file without a reference is asked for by its path, and the scan succeeds. -/
theorem unreferenced_file_is_requested :
    (∃ scan, (run smallFiles (.ofRepository unreferencedWeb ⟨"o", "r"⟩) (.text "")).result =
        .ok scan ∧ scan.project.files.map Node.text = [some ""]) ∧
      Repository.requests ⟨"o", "r"⟩
          (run smallFiles (.ofRepository unreferencedWeb ⟨"o", "r"⟩) (.text "")) =
        [.text "/repos/o/r/contents/", .text "a.ts"] := by
  refine ⟨?_, by decide +kernel⟩
  have htexts : (run smallFiles (.ofRepository unreferencedWeb ⟨"o", "r"⟩)
      (.text "")).result.toOption.map (fun scan => scan.project.files.map Node.text) =
        some [some ""] := by
    decide +kernel
  cases hresult : (run smallFiles (.ofRepository unreferencedWeb ⟨"o", "r"⟩) (.text "")).result with
  | error f =>
    rw [hresult] at htexts
    cases htexts
  | ok scan =>
    rw [hresult] at htexts
    exact ⟨scan, rfl, Option.some.inj htexts⟩

end Scan

end CodeAtlas
