-- When analyses fail. An analysis fails as the first call does that its provider does not answer,
-- and asks for nothing more; if all calls are answered, it can only fail over a text that cannot be
-- encoded, which is then the last one, or over a name or a path of an entry that is no text.
-- Nothing else that it does with an answer makes it fail.
import CodeAtlas.Proofs.Project.Hiding
import CodeAtlas.Proofs.Scan.Endings
import CodeAtlas.Proofs.Scan.OnDisk
import CodeAtlas.Proofs.Source.Fault
import CodeAtlas.Scan.Analysis

namespace CodeAtlas

namespace Provider

/-- The provider with folders down to another depth. -/
def withDepth (p : Provider) (n : Nat) : Provider := { p with depth := n }

theorem ends_withDepth {p : Provider} {n m : Nat} {path : Label} (h : p.Ends n path) :
    (p.withDepth m).Ends n path := by
  induction n generalizing path with
  | zero => cases h
  | succ n ih =>
    intro child hchild
    exact ih (h child hchild)

/-- What is listed from a table stands in it. -/
theorem mem_of_list_ofTables {listings : List (String × List Entry)}
    {contents : List (String × RawText)} {path : Label} {es : List Entry}
    (h : (ofTables listings contents).list path = .ok es) :
    ∃ x ∈ listings, path = .text x.1 ∧ x.2 = es := by
  unfold ofTables lookUp at h
  dsimp only at h
  split at h
  · cases path with
    | text key =>
      cases hlookup : listings.lookup key with
      | none => simp [Json.text?, hlookup] at h
      | some found =>
        obtain ⟨before, after, rfl, -⟩ := List.lookup_eq_some_iff.1 hlookup
        simp only [Json.text?, Option.bind_some, hlookup, Except.ok.injEq] at h
        exact ⟨(key, found), by simp, rfl, h⟩
    | _ => simp [Json.text?] at h
  · cases h

/-- The folders inside one another are those of the table. -/
theorem mem_of_inside_ofTables {listings : List (String × List Entry)}
    {contents : List (String × RawText)} {child parent : Label}
    (h : (ofTables listings contents).Inside child parent) :
    ∃ x ∈ listings, parent = .text x.1 ∧ ∃ e ∈ x.2, e.kind = .folder ∧ e.path = child := by
  obtain ⟨es, e, hlist, he, hkind, hpath⟩ := h
  obtain ⟨x, hx, hparent, rfl⟩ := mem_of_list_ofTables hlist
  exact ⟨x, hx, hparent, e, he, hkind, hpath⟩

end Provider

theorem Project.isRelative_of_mem {m : Node} {specifier : String}
    (h : specifier ∈ relativeSpecifiers m) : Specifier.isRelative specifier = true := by
  unfold relativeSpecifiers at h
  split at h
  · cases h
  · exact (List.mem_filter.1 h).2

namespace Scan

variable {s : Settings} {p : Provider} {n : Nat} {e : Entry} {es : List Entry}
  {events : List Event} {h : Harvest}

/-! ## Where the files come from -/

/-- The label is the path of an entry that is among these, or was listed on the way. -/
def WasShown (p : Provider) (es : List Entry) (events : List Event) (label : Label) : Prop :=
  ∃ e, e.path = label ∧ (e ∈ es ∨ p.Shows (events.filterMap Event.call?) e)

theorem WasShown.mono {es' : List Entry} {events' : List Event} {label : Label}
    (hshown : WasShown p es events label) (hes : es ⊆ es') (hevents : events ⊆ events') :
    WasShown p es' events' label := by
  obtain ⟨e, hpath, he | he⟩ := hshown
  · exact ⟨e, hpath, .inl (hes he)⟩
  · exact ⟨e, hpath, .inr (he.mono (List.filterMap_subset _ hevents))⟩

/-- What lies in a folder was shown when the folder was listed. -/
theorem WasShown.folder {path label : Label} (hlist : p.list path = .ok es)
    (hshown : WasShown p es events label) (given : List Entry) :
    WasShown p given (.asked (.list path) :: events) label := by
  obtain ⟨e, hpath, he | he⟩ := hshown
  · exact ⟨e, hpath, .inr ⟨path, es, List.mem_cons_self, hlist, he⟩⟩
  · exact ⟨e, hpath, .inr (he.mono (List.filterMap_subset _ (List.subset_cons_self _ _)))⟩

theorem wasShown_of_gathers (hgathers : Gathers s p n es events h) :
    ∀ f ∈ h.nodes.flatMap Project.files, WasShown p es events f.path := by
  induction hgathers with
  | nil => simp [Harvest.empty]
  | leftOut _ _ ih =>
    intro f hf
    exact (ih f hf).mono (List.subset_cons_self _ _) (List.subset_cons_self _ _)
  | other _ _ _ ih =>
    intro f hf
    exact (ih f hf).mono (List.subset_cons_self _ _) (List.Subset.refl _)
  | @file n e es events later h rest _ hkind htakes _ ih =>
    intro f hf
    obtain ⟨m, hnodes, htaken⟩ := htakes.takenFrom hkind
    rw [Harvest.nodes_append, List.flatMap_append, List.mem_append] at hf
    rcases hf with hf | hf
    · have heq : f = m := by
        simpa [hnodes, Project.files_node, htaken.isFileAt.1] using hf
      rw [heq]
      exact ⟨e, htaken.isFileAt.2.symm, .inl List.mem_cons_self⟩
    · exact (ih f hf).mono (List.subset_cons_self _ _) (List.subset_append_right _ _)
  | @folder n e es inside events later h rest _ _ hlist _ _ ihinside ih =>
    intro f hf
    rw [Harvest.nodes_append, List.flatMap_append, List.mem_append] at hf
    rcases hf with hf | hf
    · rw [List.flatMap_singleton, Project.files_folder rfl] at hf
      exact ((ihinside f hf).folder hlist (e :: es)).mono (List.Subset.refl _)
        (List.subset_append_left _ _)
    · exact (ih f hf).mono (List.subset_cons_self _ _) (List.subset_append_right _ _)

/-- Imports can only fail to be followed over the path of an entry that was listed. -/
theorem exists_odd_of_importFault? {path : String} {scan : Scan} {fault : LabelFault}
    (hresult : (run s p (.text path)).result = .ok scan)
    (hfault : scan.project.importFault? = some fault) :
    ∃ e, e.IsOddAt fault.label ∧ p.Shows (run s p (.text path)).calls e := by
  obtain ⟨n, name, es, later, h, _, _, hlist, hgathers, hevents, rfl⟩ :=
    (run_gives_iff _ _ _ _ _).1 (Run.gives_of_result hresult)
  obtain ⟨f, hf, hlabel, hpath⟩ := Project.exists_file_of_importFault? hfault
  rw [Project.files_folder rfl] at hf
  obtain ⟨e, heq, hshown⟩ := (wasShown_of_gathers hgathers f hf).folder hlist []
  refine ⟨e, ⟨hpath, .inr ?_⟩, ?_⟩
  · rw [heq, hlabel]
  · rw [Run.calls, hevents]
    exact hshown.resolve_left (by simp)

end Scan

namespace Analysis

variable {s : Settings} {p p' : Provider}

theorem calls_emit_closingEvents (scan : Scan) : (Run.emit (closingEvents scan)).calls = [] := by
  simp [Run.emit, Run.calls, closingEvents, Event.call?, List.filterMap_map]

theorem accounted_run {path : String} (hends : p.Ends p.depth (.text path)) :
    (run s p (.text path)).Accounted p [] := by
  have hscan : (Scan.run s p (.text path)).Accounted p [] := Scan.accounted_run hends
  unfold run
  by_cases hfault : ∃ scan fault, (Scan.run s p (.text path)).result = .ok scan ∧
      scan.project.importFault? = some fault
  · obtain ⟨scan, fault, hresult, hfault⟩ := hfault
    obtain ⟨e, hodd, hshown⟩ := Scan.exists_odd_of_importFault? hresult hfault
    refine hscan.bind (g := fun _ => [e]) fun scan' hresult' => ⟨?_, ?_⟩
    · cases hresult.symm.trans hresult'
      rw [hfault]
      exact Run.accounted_fail hodd List.mem_cons_self
    · intro e' he'
      rw [List.mem_singleton.1 he']
      exact .inr hshown
  · refine hscan.bind (g := fun _ => []) fun scan hresult => ⟨?_, by simp⟩
    cases hnone : scan.project.importFault? with
    | some fault => exact absurd ⟨scan, fault, hresult, hnone⟩ hfault
    | none =>
      exact (Run.accounted_of_ok (calls_emit_closingEvents scan) rfl).andThen fun _ _ =>
        Run.accounted_of_ok rfl rfl

theorem outdone_run (path : Label) : Run.Outdone p p' (run s p path) (run s p' path) :=
  (Scan.outdone_run path).bind fun _ => Run.outdone_refl _

/-- Where the listings are well founded, an analysis that goes deep enough fails as the first call
does that is not answered, or over the first text that cannot be encoded, and asks for nothing more;
otherwise it fails only over a name or a path that is no text, of an entry that was listed. No fault
of a text and no import makes it fail. Up to its failure it goes the same way as an analysis that
gets the same answers and succeeds. -/
theorem run_fails_as_provider (s : Settings) (p : Provider) (path : String)
    (hfounded : Acc p.Inside (.text path)) :
    (∃ depth, ∀ n, depth ≤ n → ∀ r, r = run s (p.withDepth n) (.text path) →
      (∀ f, r.result = .error f →
        (∃ before c, r.calls = before ++ [c] ∧ (∀ b ∈ before, p.failure? b = none) ∧
          (p.failure? c = some f ∨ p.Tears c f)) ∨
        (∀ c ∈ r.calls, p.failure? c = none) ∧
          ∃ fault e, f = .label fault ∧ e.IsOddAt fault.label ∧ p.Shows r.calls e) ∧
      (∀ a, r.result = .ok a → ∀ c ∈ r.calls, p.failure? c = none ∧ ∀ f, ¬ p.Tears c f) ∧
      ((∀ e, p.Shows r.calls e → e.isOdd = false) →
        ((∃ f, r.result = .error f) ↔
          ∃ c ∈ r.calls, p.failure? c ≠ none ∨ ∃ f, p.Tears c f)) ∧
      ∀ p' a, (∀ c ∈ r.calls, p.failure? c = none → p.SameAnswer p' c) →
        (run s p' (.text path)).result = .ok a →
          r.progress <+: (run s p' (.text path)).progress) ∧
    (∀ e d text, ∃ h, (Scan.readText s e d text).result = .ok h) ∧
    (∀ d : Dialect, ∀ file text, Source.readNamed s.grammar d.name file text =
      (Source.read s.grammar d text).mapError (.fault file)) ∧
    ∀ m specifier, specifier ∈ Project.relativeSpecifiers m → ∀ file,
      Specifier.resolve specifier file = .ok (Specifier.target specifier file) := by
  refine ⟨?_, ?_, Source.readNamed_name s.grammar, ?_⟩
  · obtain ⟨depth, hdepth⟩ := Provider.exists_ends hfounded
    refine ⟨depth, ?_⟩
    rintro n hn r rfl
    have haccounted : (run s (p.withDepth n) (.text path)).Accounted p [] :=
      accounted_run (Provider.ends_withDepth (hdepth.mono hn))
    refine ⟨haccounted.result_error, haccounted.result_ok, haccounted.error_iff, ?_⟩
    intro p' a hsame ha
    exact Run.Outdone.progress (outdone_run (.text path)) hsame ha
  · intro e d text
    exact ⟨_, congrArg Run.result (Scan.readText_eq s e d text)⟩
  · intro m specifier hspecifier file
    exact Project.resolve_of_isRelative (Project.isRelative_of_mem hspecifier) file

/-- The mixed project while one of its texts is missing. -/
def unfinishedFolders : Provider :=
  { Scan.mixedFolders with
    fetch := fun reference =>
      if reference = .text "main.ts" then .error (.unavailable reference .noContent)
      else Scan.mixedFolders.fetch reference }

/-- The analysis of the unfinished project fails exactly if a call does or a text cannot be encoded,
and goes the same way as that of the finished one as far as it gets. -/
theorem run_fails_as_provider_unfinished :
    Acc unfinishedFolders.Inside (.text "") ∧
      ∃ depth, ∀ n, depth ≤ n → ∀ r,
        r = run Scan.smallFiles (unfinishedFolders.withDepth n) (.text "") →
          ((∃ f, r.result = .error f) ↔ ∃ c ∈ r.calls,
            unfinishedFolders.failure? c ≠ none ∨ ∃ f, unfinishedFolders.Tears c f) ∧
          ∀ a, (run Scan.smallFiles Scan.mixedFolders (.text "")).result = .ok a →
            r.progress <+: (run Scan.smallFiles Scan.mixedFolders (.text "")).progress := by
  -- only the start has folders in it
  have hinside : ∀ child parent, unfinishedFolders.Inside child parent →
      parent = .text "" ∧ child ≠ .text "" := by
    intro child parent (h : Scan.mixedFolders.Inside child parent)
    obtain ⟨x, hx, rfl, e, he, hkind, rfl⟩ := Provider.mem_of_inside_ofTables h
    clear h
    revert x e
    decide
  have hfounded : Acc unfinishedFolders.Inside (.text "") := by
    refine .intro _ fun child hchild => .intro _ fun below hbelow => ?_
    exact absurd (hinside _ _ hbelow).1 (hinside _ _ hchild).2
  have htexts : ∀ calls e, unfinishedFolders.Shows calls e → e.isOdd = false := by
    rintro calls e ⟨path, es, -, (hlist : Scan.mixedFolders.list path = .ok es), he⟩
    obtain ⟨x, hx, rfl, rfl⟩ := Provider.mem_of_list_ofTables hlist
    clear hlist
    revert e
    revert x
    decide
  obtain ⟨⟨depth, hdepth⟩, -⟩ := run_fails_as_provider Scan.smallFiles _ "" hfounded
  refine ⟨hfounded, depth, ?_⟩
  intro n hn r hr
  obtain ⟨-, -, hfails, hprogress⟩ := hdepth n hn r hr
  refine ⟨hfails (htexts r.calls), ?_⟩
  intro a ha
  refine hprogress Scan.mixedFolders a ?_ ha
  intro c _ hanswered
  cases c with
  | list path => rfl
  | fetch reference =>
    by_cases h : reference = .text "main.ts"
    · simp [Provider.failure?, unfinishedFolders, h] at hanswered
    · simp [Provider.SameAnswer, unfinishedFolders, h]

/-- A folder with a source file whose text ends in two surrogates. -/
def tornFolder : Provider :=
  .ofTables [("", [⟨.file, .text "a.ts", .text "a.ts", .null⟩])]
    [("a.ts", ⟨[.char '/', .char '/', .surrogate 0, .surrogate 1]⟩)]

example : (run Scan.smallFiles tornFolder (.text "")).calls =
      [.list (.text ""), .fetch (.text "a.ts")] ∧
    (run Scan.smallFiles tornFolder (.text "")).result = .error (.surrogates ⟨2, 0, 2⟩) :=
  ⟨rfl, rfl⟩

/-- A folder with a file that has no name. -/
def namelessFolder : Provider :=
  .ofTables [("", [⟨.file, .null, .text "p", .null⟩])] []

/-- A file without a name stops the analysis, though the only call is answered. -/
theorem null_name_stops_analysis :
    Acc namelessFolder.Inside (.text "") ∧ namelessFolder.failure? (.list (.text "")) = none ∧
      ∀ s n, (run s (namelessFolder.withDepth (n + 1)) (.text "")).calls = [.list (.text "")] ∧
        (run s (namelessFolder.withDepth (n + 1)) (.text "")).result =
          .error (.label (.notText .null)) := by
  refine ⟨?_, rfl, ?_⟩
  · refine .intro _ fun child hchild => ?_
    obtain ⟨x, hx, -, e, he, hkind, -⟩ := Provider.mem_of_inside_ofTables hchild
    rw [List.mem_singleton.1 hx, List.mem_singleton] at he
    rw [he] at hkind
    cases hkind
  · rintro ⟨grammar, rules, limit, identify⟩ n
    cases rules with
    | none => exact ⟨rfl, rfl⟩
    | some rules => exact ⟨rfl, rfl⟩

end Analysis

end CodeAtlas
