-- How scans end. Every call is answered by something that can be used until one is not, and then
-- the scan ends: with the failure of that call, or with that of encoding its text. Otherwise it can
-- only fail over a name or a path of an entry that is no text. A scan with another provider that
-- gives the same answers goes the same way at least as far.
import CodeAtlas.Proofs.Scan.Gathering

namespace CodeAtlas

/-- The name or the path of the entry is no text. -/
def Entry.isOdd (e : Entry) : Bool := !(e.name.isText && e.path.isText)

/-- The label is the name or the path of the entry, and no text. -/
def Entry.IsOddAt (e : Entry) (label : Label) : Prop :=
  label.isText = false ∧ (label = e.name ∨ label = e.path)

theorem Entry.IsOddAt.isOdd {e : Entry} {label : Label} (h : e.IsOddAt label) : e.isOdd = true := by
  obtain ⟨htext, rfl | rfl⟩ := h <;> simp [Entry.isOdd, htext]

namespace Provider

/-- Why a call is not answered, if it is not. -/
def failure? (p : Provider) : Call → Option Failure
  | .list path =>
    match p.list path with
    | .ok _ => none
    | .error f => some f
  | .fetch reference =>
    match p.fetch reference with
    | .ok _ => none
    | .error f => some f

/-- The call is answered by a text that cannot be encoded. -/
def Tears (p : Provider) (c : Call) (f : Failure) : Prop :=
  ∃ reference raw fault, c = .fetch reference ∧ p.fetch reference = .ok raw ∧
    raw.string = .error fault ∧ f = .surrogates fault

/-- Why a run cannot go on after a call, if it cannot. -/
def stop? (p : Provider) : Call → Option Failure
  | .list path =>
    match p.list path with
    | .ok _ => none
    | .error f => some f
  | .fetch reference =>
    match p.textOf reference with
    | .ok _ => none
    | .error f => some f

theorem stop?_list_iff (p : Provider) (path : Label) (f : Failure) :
    p.stop? (.list path) = some f ↔ p.list path = .error f := by
  cases hlist : p.list path <;> simp [stop?, hlist]

theorem stop?_fetch_iff (p : Provider) (reference : Label) (f : Failure) :
    p.stop? (.fetch reference) = some f ↔ p.textOf reference = .error f := by
  cases hfetch : p.textOf reference <;> simp [stop?, hfetch]

/-- A run cannot go on if the call is not answered, or by a text that cannot be encoded. -/
theorem stop?_eq_some_iff (p : Provider) (c : Call) (f : Failure) :
    p.stop? c = some f ↔ p.failure? c = some f ∨ p.Tears c f := by
  cases c with
  | list path => simp [stop?, failure?, Tears]
  | fetch reference =>
    rw [stop?_fetch_iff]
    cases hfetch : p.fetch reference with
    | error e => simp [failure?, Tears, hfetch, textOf_of_error hfetch]
    | ok raw =>
      cases hstring : raw.string with
      | ok text =>
        have htext : p.textOf reference = .ok text := by
          rw [textOf_of_fetch hfetch, hstring]
          rfl
        simp [failure?, Tears, hfetch, hstring, htext]
      | error fault =>
        have htext : p.textOf reference = .error (.surrogates fault) := by
          rw [textOf_of_fetch hfetch, hstring]
          rfl
        simp [failure?, Tears, hfetch, hstring, htext, eq_comm]

theorem answered_of_stop? {p : Provider} {c : Call} (h : p.stop? c = none) :
    p.failure? c = none ∧ ∀ f, ¬ p.Tears c f := by
  have hnone : ∀ f, ¬ (p.failure? c = some f ∨ p.Tears c f) := by
    intro f hf
    cases h.symm.trans ((p.stop?_eq_some_iff c f).2 hf)
  refine ⟨?_, fun f hf => hnone f (.inr hf)⟩
  exact Option.eq_none_iff_forall_ne_some.2 fun f hf => hnone f (.inl hf)

/-- The other provider gives the same answer to the call. -/
def SameAnswer (p p' : Provider) : Call → Prop
  | .list path => p'.list path = p.list path
  | .fetch reference => p'.fetch reference = p.fetch reference

/-- The entry is in the answer to one of the calls. -/
def Shows (p : Provider) (calls : List Call) (e : Entry) : Prop :=
  ∃ path es, .list path ∈ calls ∧ p.list path = .ok es ∧ e ∈ es

theorem Shows.mono {p : Provider} {calls calls' : List Call} {e : Entry} (h : p.Shows calls e)
    (hcalls : calls ⊆ calls') : p.Shows calls' e := by
  obtain ⟨path, es, hcall, hlist, he⟩ := h
  exact ⟨path, es, hcalls hcall, hlist, he⟩

/-! ## How deep folders are listed -/

/-- The folder is listed as an entry of the other one. -/
def Inside (p : Provider) (child parent : Label) : Prop :=
  ∃ es e, p.list parent = .ok es ∧ e ∈ es ∧ e.kind = .folder ∧ e.path = child

/-- No chain of folders, each inside the one before, has more than so many of them. -/
def Ends (p : Provider) : Nat → Label → Prop
  | 0, _ => False
  | n + 1, path => ∀ child, p.Inside child path → p.Ends n child

theorem Ends.mono {p : Provider} {n m : Nat} {path : Label} (h : p.Ends n path) (hle : n ≤ m) :
    p.Ends m path := by
  induction n generalizing m path with
  | zero => cases h
  | succ n ih =>
    cases m with
    | zero => omega
    | succ m =>
      intro child hchild
      exact ih (h child hchild) (by omega)

/-- A listing has only finitely many folders, so that one bound does for all of them. -/
theorem exists_ends_of_forall {p : Provider} {es : List Entry}
    (h : ∀ e ∈ es, e.kind = .folder → ∃ n, p.Ends n e.path) :
    ∃ n, ∀ e ∈ es, e.kind = .folder → p.Ends n e.path := by
  induction es with
  | nil => exact ⟨0, by simp⟩
  | cons e es ih =>
    obtain ⟨hhead, htail⟩ := List.forall_mem_cons.1 h
    obtain ⟨n, hn⟩ := ih htail
    by_cases hkind : e.kind = .folder
    · obtain ⟨m, hm⟩ := hhead hkind
      refine ⟨max m n, List.forall_mem_cons.2 ⟨fun _ => hm.mono (Nat.le_max_left _ _), ?_⟩⟩
      intro e' he' hkind'
      exact (hn e' he' hkind').mono (Nat.le_max_right _ _)
    · exact ⟨n, List.forall_mem_cons.2 ⟨fun h => absurd h hkind, hn⟩⟩

/-- Where no folder contains itself, however far down, there is a bound. -/
theorem exists_ends {p : Provider} {path : Label} (h : Acc p.Inside path) : ∃ n, p.Ends n path := by
  induction h with
  | intro path _ ih =>
    cases hlist : p.list path with
    | error f =>
      refine ⟨1, ?_⟩
      rintro child ⟨es, e, hes, -⟩
      cases hlist.symm.trans hes
    | ok es =>
      have hfolders : ∀ e ∈ es, e.kind = .folder → ∃ n, p.Ends n e.path :=
        fun e he hkind => ih e.path ⟨es, e, hlist, he, hkind, rfl⟩
      obtain ⟨n, hn⟩ := exists_ends_of_forall hfolders
      refine ⟨n + 1, ?_⟩
      rintro child ⟨es', e, hes', he, hkind, rfl⟩
      cases hlist.symm.trans hes'
      exact hn e he hkind

end Provider

namespace Run

variable {α β : Type} {p p' : Provider} {given : List Entry}

/-! ## Runs that are accounted for -/

/-- How a run ends that starts with some entries given: it can go on after all its calls, and if it
fails, it is over a label of an odd entry that was given or listed; or its last call is the first
after which it cannot go on, and this is why it fails. -/
def Accounted (p : Provider) (given : List Entry) (r : Run α) : Prop :=
  ((∀ c ∈ r.calls, p.stop? c = none) ∧
      ∀ f, r.result = .error f → ∃ fault e, f = .label fault ∧ e.IsOddAt fault.label ∧
        (e ∈ given ∨ p.Shows r.calls e)) ∨
    ∃ before c f, r.calls = before ++ [c] ∧ (∀ b ∈ before, p.stop? b = none) ∧
      p.stop? c = some f ∧ r.result = .error f

theorem Accounted.result_error {r : Run α} (hr : r.Accounted p []) :
    ∀ f, r.result = .error f →
      (∃ before c, r.calls = before ++ [c] ∧ (∀ b ∈ before, p.failure? b = none) ∧
        (p.failure? c = some f ∨ p.Tears c f)) ∨
      (∀ c ∈ r.calls, p.failure? c = none) ∧
        ∃ fault e, f = .label fault ∧ e.IsOddAt fault.label ∧ p.Shows r.calls e := by
  intro f hf
  rcases hr with ⟨hanswered, hodd⟩ | ⟨before, c, f', hcalls, hbefore, hc, hresult⟩
  · obtain ⟨fault, e, hlabel, he, hgiven | hshown⟩ := hodd f hf
    · cases hgiven
    · exact .inr ⟨fun c hc => (Provider.answered_of_stop? (hanswered c hc)).1,
        fault, e, hlabel, he, hshown⟩
  · cases hresult.symm.trans hf
    exact .inl ⟨before, c, hcalls, fun b hb => (Provider.answered_of_stop? (hbefore b hb)).1,
      (p.stop?_eq_some_iff c f).1 hc⟩

theorem Accounted.result_ok {r : Run α} (hr : r.Accounted p given) :
    ∀ a, r.result = .ok a → ∀ c ∈ r.calls, p.failure? c = none ∧ ∀ f, ¬ p.Tears c f := by
  intro a ha c hc
  rcases hr with ⟨hanswered, -⟩ | ⟨_, _, _, -, -, -, hresult⟩
  · exact Provider.answered_of_stop? (hanswered c hc)
  · cases hresult.symm.trans ha

/-- Where no odd entry is listed, a run fails exactly if a call does, or if a text cannot be
encoded. -/
theorem Accounted.error_iff {r : Run α} (hr : r.Accounted p [])
    (htexts : ∀ e, p.Shows r.calls e → e.isOdd = false) :
    (∃ f, r.result = .error f) ↔
      ∃ c ∈ r.calls, p.failure? c ≠ none ∨ ∃ f, p.Tears c f := by
  constructor
  · rintro ⟨f, hf⟩
    rcases hr.result_error f hf with ⟨before, c, hcalls, -, hc⟩ | ⟨-, fault, e, -, hodd, hshown⟩
    · refine ⟨c, by simp [hcalls], ?_⟩
      rcases hc with hfails | htears
      · exact .inl (by simp [hfails])
      · exact .inr ⟨f, htears⟩
    · cases hodd.isOdd.symm.trans (htexts e hshown)
  · rintro ⟨c, hc, hwhy⟩
    cases hresult : r.result with
    | error f => exact ⟨f, rfl⟩
    | ok a =>
      obtain ⟨hanswered, hwhole⟩ := hr.result_ok a hresult c hc
      rcases hwhy with hfails | ⟨f, htears⟩
      · exact absurd hanswered hfails
      · exact absurd htears (hwhole f)

theorem calls_next_of_ok {r : Run α} {a : α} (h : r.result = .ok a) (f : α → Run β) :
    (r >>= f).calls = r.calls ++ (f a).calls ∧ (r >>= f).result = (f a).result := by
  rw [bind_eq_next, next_of_ok h]
  exact ⟨List.filterMap_append, rfl⟩

theorem calls_next_of_error {r : Run α} {e : Failure} (h : r.result = .error e) (f : α → Run β) :
    (r >>= f).calls = r.calls ∧ (r >>= f).result = .error e := by
  rw [bind_eq_next, next_of_error h]
  exact ⟨rfl, rfl⟩

theorem Accounted.bind {r : Run α} {f : α → Run β} {g : α → List Entry}
    (hr : r.Accounted p given)
    (hf : ∀ a, r.result = .ok a → (f a).Accounted p (g a) ∧
      ∀ e ∈ g a, e ∈ given ∨ p.Shows r.calls e) : (r >>= f).Accounted p given := by
  rcases hr with ⟨hanswered, hodd⟩ | ⟨before, c, e, hcalls, hbefore, hc, hresult⟩
  · cases hresult : r.result with
    | error e =>
      obtain ⟨hcalls, hresult'⟩ := calls_next_of_error hresult f
      unfold Accounted
      rw [hcalls, hresult']
      refine .inl ⟨hanswered, ?_⟩
      rintro _ ⟨⟩
      exact hodd e hresult
    | ok a =>
      obtain ⟨hcalls, hresult'⟩ := calls_next_of_ok hresult f
      obtain ⟨hfa, hknown⟩ := hf a hresult
      unfold Accounted
      rw [hcalls, hresult']
      rcases hfa with ⟨hanswered', hodd'⟩ | ⟨before, c, e, hcalls', hbefore, hc, hfails⟩
      · refine .inl ⟨List.forall_mem_append.2 ⟨hanswered, hanswered'⟩, ?_⟩
        intro e he
        obtain ⟨fault, entry, hlabel, hentry, hwhere⟩ := hodd' e he
        refine ⟨fault, entry, hlabel, hentry, ?_⟩
        rcases hwhere with hgiven | hshown
        · rcases hknown entry hgiven with hgiven | hshown
          · exact .inl hgiven
          · exact .inr (hshown.mono (List.subset_append_left _ _))
        · exact .inr (hshown.mono (List.subset_append_right _ _))
      · refine .inr ⟨r.calls ++ before, c, e, ?_, ?_, hc, hfails⟩
        · rw [hcalls', List.append_assoc]
        · exact List.forall_mem_append.2 ⟨hanswered, hbefore⟩
  · obtain ⟨hcalls', hresult'⟩ := calls_next_of_error hresult f
    refine .inr ⟨before, c, e, ?_, hbefore, hc, hresult'⟩
    rw [hcalls', hcalls]

/-- A run that asks for nothing and succeeds. -/
theorem accounted_of_ok {r : Run α} {a : α} (hcalls : r.calls = []) (hresult : r.result = .ok a) :
    r.Accounted p given := by
  refine .inl ⟨by simp [hcalls], ?_⟩
  intro f hf
  cases hresult.symm.trans hf

theorem accounted_fail {fault : LabelFault} {e : Entry} (hodd : e.IsOddAt fault.label)
    (he : e ∈ given) : (fail (.label fault) : Run α).Accounted p given := by
  refine .inl ⟨by simp [fail, calls], ?_⟩
  rintro f ⟨⟩
  exact ⟨fault, e, rfl, hodd, .inl he⟩

/-- A run of a single call. -/
theorem accounted_of_call {r : Run α} {c : Call} (hcalls : r.calls = [c])
    (hresult : ∀ f, p.stop? c = some f ↔ r.result = .error f) : r.Accounted p given := by
  cases hstop : p.stop? c with
  | none =>
    refine .inl ⟨by simp [hcalls, hstop], ?_⟩
    intro f hf
    cases hstop.symm.trans ((hresult f).2 hf)
  | some f => exact .inr ⟨[], c, f, hcalls, by simp, hstop, (hresult f).1 hstop⟩

theorem accounted_list (path : Label) : (list p path).Accounted p given :=
  accounted_of_call rfl (p.stop?_list_iff path)

theorem accounted_fetch (reference : Label) : (fetch p reference).Accounted p given :=
  accounted_of_call rfl (p.stop?_fetch_iff reference)

/-- One run after another, when nothing new is given. -/
theorem Accounted.andThen {r : Run α} {f : α → Run β} (hr : r.Accounted p given)
    (hf : ∀ a, r.result = .ok a → (f a).Accounted p given) : (r >>= f).Accounted p given :=
  hr.bind fun a ha => ⟨hf a ha, fun _ he => .inl he⟩

/-! ## Runs that another one outdoes -/

/-- If the other provider gives the same answers, and the other run succeeds, then it is the same
run, or this one fails on the way. -/
def Outdone (p p' : Provider) (r r' : Run α) : Prop :=
  (∀ c ∈ r.calls, p.failure? c = none → p.SameAnswer p' c) → ∀ a, r'.result = .ok a →
    r = r' ∨ (∃ f, r.result = .error f) ∧ r.events <+: r'.events

theorem Outdone.progress {r r' : Run α} (hr : Outdone p p' r r')
    (hsame : ∀ c ∈ r.calls, p.failure? c = none → p.SameAnswer p' c) {a : α}
    (ha : r'.result = .ok a) : r.progress <+: r'.progress := by
  rcases hr hsame a ha with rfl | ⟨-, hle⟩
  · exact List.prefix_refl _
  · exact hle.filterMap _

theorem outdone_refl (r : Run α) : Outdone p p' r r := fun _ _ _ => .inl rfl

theorem Outdone.bind {r r' : Run α} {f f' : α → Run β} (hr : Outdone p p' r r')
    (hf : ∀ a, Outdone p p' (f a) (f' a)) : Outdone p p' (r >>= f) (r' >>= f') := by
  intro hsame b hb
  obtain ⟨before, a, after, hgives, hgives', -⟩ :=
    (gives_bind_iff r' f' _ b).1 (gives_of_result hb)
  have hresult : r'.result = .ok a := congrArg Run.result hgives
  have hresult' : (f' a).result = .ok b := congrArg Run.result hgives'
  have hevents : (r' >>= f').events = r'.events ++ (f' a).events := by
    rw [bind_eq_next, next_of_ok hresult]
  have hfails : ∀ e, r.result = .error e → r.events <+: r'.events →
      (∃ e, (r >>= f).result = .error e) ∧ (r >>= f).events <+: (r' >>= f').events := by
    intro e he hle
    rw [hevents, bind_eq_next, next_of_error he]
    exact ⟨⟨e, rfl⟩, hle.trans (List.prefix_append _ _)⟩
  cases hok : r.result with
  | error e =>
    obtain ⟨hcalls, -⟩ := calls_next_of_error hok f
    rw [hcalls] at hsame
    rcases hr hsame a hresult with rfl | ⟨⟨e', he'⟩, hle⟩
    · cases hok.symm.trans hresult
    · exact .inr (hfails e' he' hle)
  | ok a' =>
    obtain ⟨hcalls, -⟩ := calls_next_of_ok hok f
    rw [hcalls, List.forall_mem_append] at hsame
    rcases hr hsame.1 a hresult with rfl | ⟨⟨e', he'⟩, hle⟩
    · cases hok.symm.trans hresult
      have hbind : ∀ g : α → Run β, r >>= g = ⟨r.events ++ (g a).events, (g a).result⟩ :=
        fun g => next_of_ok hok g
      rcases hf a hsame.2 b hresult' with heq | ⟨⟨e, he⟩, hle⟩
      · left
        rw [hbind, hbind, heq]
      · right
        rw [hbind, hbind]
        exact ⟨⟨e, he⟩, (List.prefix_append_right_inj _).2 hle⟩
    · cases hok.symm.trans he'

theorem outdone_list (path : Label) : Outdone p p' (list p path) (list p' path) := by
  intro hsame es hes
  cases hlist : p.list path with
  | ok es' =>
    left
    have hanswer : p'.list path = p.list path :=
      hsame (.list path) (by simp [list, calls, Event.call?]) (by simp [Provider.failure?, hlist])
    unfold list
    rw [hanswer]
  | error f => exact .inr ⟨⟨f, hlist⟩, List.prefix_refl _⟩

theorem outdone_fetch (reference : Label) :
    Outdone p p' (fetch p reference) (fetch p' reference) := by
  intro hsame text htext
  cases hfetch : p.fetch reference with
  | ok raw =>
    left
    have hanswer : p'.fetch reference = p.fetch reference :=
      hsame (.fetch reference) (by simp [fetch, calls, Event.call?])
        (by simp [Provider.failure?, hfetch])
    unfold fetch Provider.textOf
    rw [hanswer]
  | error f =>
    refine .inr ⟨⟨f, ?_⟩, List.prefix_refl _⟩
    simp [fetch, Provider.textOf, hfetch, bind, Except.bind]

end Run

namespace Scan

variable {s : Settings} {p p' : Provider} {e : Entry} {given es : List Entry}

/-! ## The steps of a scan -/

/-- A property of runs that start with some entries given. It holds of the single steps of a scan,
and of two runs one after the other if it holds of both. -/
structure Steps (s : Settings) (p : Provider) (P : (α : Type) → List Entry → Run α → Prop) :
    Prop where
  ok {α : Type} {given : List Entry} {r : Run α} {a : α} (hcalls : r.calls = [])
    (hresult : r.result = .ok a) : P α given r
  odd {α : Type} {given : List Entry} {e : Entry} (fault : LabelFault) (he : e ∈ given)
    (hodd : e.IsOddAt fault.label) : P α given (Run.fail (.label fault))
  fetch {given : List Entry} {e : Entry} {name : String} {d : Dialect} (he : e ∈ given)
    (hkept : (excluded s e).result = .ok false) (hkind : e.kind = .file)
    (hname : e.name = .text name) (hdialect : Dialect.ofPath? name = some d) :
    P String given (Run.fetch p e.target)
  andThen {α β : Type} {given : List Entry} {r : Run α} {f : α → Run β} (hr : P α given r)
    (hf : ∀ a, r.result = .ok a → P β given (f a)) : P β given (r >>= f)

namespace Steps

variable {P : (α : Type) → List Entry → Run α → Prop}

theorem withName (hP : Steps s p P) {α : Type} {f : String → Run α} (he : e ∈ given)
    (hf : ∀ name, e.name = .text name → P α given (f name)) : P α given (withText e.name f) := by
  unfold withText
  split
  · rename_i name hname
    exact hf name hname
  · rename_i hname
    refine hP.odd _ he ⟨?_, .inl rfl⟩
    cases hlabel : e.name <;> simp_all [LabelFault.label, Json.isText, Json.text?]

theorem file (hP : Steps s p P) (he : e ∈ given) (hkept : (excluded s e).result = .ok false)
    (hkind : e.kind = .file) : P Harvest given (file s p e) := by
  refine hP.withName he fun name hname => ?_
  cases hdialect : Dialect.ofPath? name with
  | none => exact hP.ok rfl rfl
  | some d =>
    refine hP.andThen (hP.fetch he hkept hkind hname hdialect) fun text _ => ?_
    refine hP.ok ?_ (congrArg Run.result (readText_eq s e d text))
    rw [readText_eq, Run.calls]
    simp [Event.call?]

theorem excluded (hP : Steps s p P) (he : e ∈ given) : P Bool given (excluded s e) := by
  unfold Scan.excluded
  cases s.rules with
  | none => exact hP.ok rfl rfl
  | some rules => exact hP.withName he fun _ _ => hP.ok rfl rfl

theorem entry (hP : Steps s p P) {folder : Label → Run Harvest} (he : e ∈ given)
    (hfolder : e.kind = .folder → (Scan.excluded s e).result = .ok false →
      P Harvest given (folder e.path)) : P Harvest given (entry s p folder e) := by
  refine hP.andThen (hP.excluded he) fun b hb => ?_
  cases b with
  | true => exact hP.ok rfl rfl
  | false =>
    simp only [Bool.false_eq_true, if_false]
    cases hkind : e.kind with
    | file => exact hP.andThen (hP.ok rfl rfl) fun _ _ => hP.file he hb hkind
    | folder => exact hP.andThen (hfolder hkind hb) fun _ _ => hP.ok rfl rfl
    | other label => exact hP.ok rfl rfl

/-- What holds of the steps holds of some entries, if it holds of the folders among them. -/
theorem entries (hP : Steps s p P) {folder : Label → Run Harvest} (hes : es ⊆ given)
    (hfolder : ∀ e ∈ es, e.kind = .folder → (Scan.excluded s e).result = .ok false →
      P Harvest given (folder e.path)) : P Harvest given (entries s p folder es) := by
  induction es with
  | nil => exact hP.ok rfl rfl
  | cons e es ih =>
    obtain ⟨he, hes⟩ := List.cons_subset.1 hes
    obtain ⟨hhead, htail⟩ := List.forall_mem_cons.1 hfolder
    refine hP.andThen (hP.entry he hhead) fun first _ => ?_
    exact hP.andThen (ih hes htail) fun rest _ => hP.ok rfl rfl

end Steps

/-! ## Scans are accounted for -/

theorem accounted_steps (s : Settings) (p : Provider) :
    Steps s p fun _ given r => r.Accounted p given where
  ok := Run.accounted_of_ok
  odd _ he hodd := Run.accounted_fail hodd he
  fetch _ _ _ _ _ := Run.accounted_fetch _
  andThen := Run.Accounted.andThen

/-- What is known to begin with does not matter to a folder that is listed. -/
theorem accounted_folder {n : Nat} {path : Label} (hends : p.Ends n path) :
    (folder s p n path).Accounted p given := by
  induction n generalizing path given with
  | zero => cases hends
  | succ n ih =>
    unfold folder
    refine (Run.accounted_list path).bind (g := fun es => es) fun es hes => ⟨?_, ?_⟩
    · refine (accounted_steps s p).entries (List.Subset.refl es) ?_
      intro e he hkind _
      exact ih (hends e.path ⟨es, e, hes, he, hkind, rfl⟩)
    · intro e he
      exact .inr ⟨path, es, List.mem_cons_self, hes, he⟩

theorem accounted_run {path : String} (hends : p.Ends p.depth (.text path)) :
    (run s p (.text path)).Accounted p [] := by
  have hname : ∃ name, (startName (.text path)).result = .ok name := by
    unfold startName withText
    split
    · exact ⟨_, rfl⟩
    · exact ⟨_, rfl⟩
  obtain ⟨name, hname⟩ := hname
  have hcalls : (startName (.text path)).calls = [] := by
    rw [Run.calls, startName_events]
    rfl
  refine (Run.accounted_of_ok hcalls hname).andThen fun name _ => ?_
  exact (accounted_folder hends).andThen fun harvest _ => Run.accounted_of_ok rfl rfl

/-! ## Scans with other providers -/

theorem outdone_file (e : Entry) : Run.Outdone p p' (file s p e) (file s p' e) := by
  unfold file withText
  split
  · dsimp only
    split
    · exact Run.outdone_refl _
    · exact (Run.outdone_fetch _).bind fun text => Run.outdone_refl _
  · exact Run.outdone_refl _

theorem outdone_entry {folder folder' : Label → Run Harvest}
    (hfolder : ∀ path, Run.Outdone p p' (folder path) (folder' path)) (e : Entry) :
    Run.Outdone p p' (entry s p folder e) (entry s p' folder' e) := by
  unfold entry
  refine (Run.outdone_refl _).bind fun b => ?_
  cases b with
  | true =>
    simp only [if_true]
    exact Run.outdone_refl _
  | false =>
    simp only [Bool.false_eq_true, if_false]
    cases e.kind with
    | file => exact (Run.outdone_refl _).bind fun _ => outdone_file e
    | folder => exact (hfolder _).bind fun _ => Run.outdone_refl _
    | other label => exact Run.outdone_refl _

theorem outdone_entries {folder folder' : Label → Run Harvest}
    (hfolder : ∀ path, Run.Outdone p p' (folder path) (folder' path)) (es : List Entry) :
    Run.Outdone p p' (entries s p folder es) (entries s p' folder' es) := by
  induction es with
  | nil => exact Run.outdone_refl _
  | cons e es ih =>
    exact (outdone_entry hfolder e).bind fun _ => ih.bind fun _ => Run.outdone_refl _

/-- The two providers need not be equally deep: where one scan is cut short it fails on the way. -/
theorem outdone_folder (n n' : Nat) (path : Label) :
    Run.Outdone p p' (folder s p n path) (folder s p' n' path) := by
  induction n generalizing n' path with
  | zero =>
    intro _ _ _
    exact .inr ⟨⟨_, rfl⟩, List.nil_prefix⟩
  | succ n ih =>
    cases n' with
    | zero =>
      intro _ _ hfails
      cases hfails
    | succ n' =>
      unfold folder
      exact (Run.outdone_list path).bind fun es => outdone_entries (ih n') es

theorem outdone_run (path : Label) : Run.Outdone p p' (run s p path) (run s p' path) := by
  refine (Run.outdone_refl _).bind fun name => ?_
  exact (outdone_folder _ _ _).bind fun harvest => Run.outdone_refl _

end Scan

end CodeAtlas
