-- The laws of the call edges of a file. A caller and a callee share one edge, however often
-- they meet. The edge stands for the place where they meet first, and the edges come in the
-- order of these places.
import CodeAtlas.Calls.Edge

namespace CodeAtlas

/-! ## The first element for every key -/

section Firsts

variable {α β κ : Type} [BEq κ] {key : α → κ} {seen : List κ} {as : List α} {a b : α}

theorem firstsFrom_sublist (key : α → κ) (seen : List κ) (as : List α) :
    (firstsFrom key seen as).Sublist as := by
  induction as generalizing seen with
  | nil => exact List.Sublist.slnil
  | cons a as ih =>
    unfold firstsFrom
    split
    · exact (ih seen).cons a
    · exact (ih _).cons_cons a

theorem map_firstsFrom (f : β → α) (seen : List κ) (bs : List β) :
    (firstsFrom (fun b => key (f b)) seen bs).map f = firstsFrom key seen (bs.map f) := by
  induction bs generalizing seen with
  | nil => rfl
  | cons b bs ih =>
    simp only [List.map_cons, firstsFrom]
    split
    · exact ih seen
    · rw [List.map_cons, ih]

variable [LawfulBEq κ]

theorem key_notMem_seen (h : a ∈ firstsFrom key seen as) : key a ∉ seen := by
  induction as generalizing seen with
  | nil => cases h
  | cons b as ih =>
    unfold firstsFrom at h
    split at h
    · exact ih h
    · rename_i hb
      rcases List.mem_cons.1 h with rfl | h
      · simpa using hb
      · exact fun hm => ih h (List.mem_cons_of_mem _ hm)

theorem nodup_keys_firstsFrom (key : α → κ) (seen : List κ) (as : List α) :
    ((firstsFrom key seen as).map key).Nodup := by
  induction as generalizing seen with
  | nil => exact List.nodup_nil
  | cons a as ih =>
    unfold firstsFrom
    split
    · exact ih seen
    · rw [List.map_cons, List.nodup_cons]
      refine ⟨?_, ih _⟩
      intro hm
      obtain ⟨b, hb, hkey⟩ := List.mem_map.1 hm
      exact key_notMem_seen hb (hkey ▸ List.mem_cons_self)

/-- No key is lost. -/
theorem exists_firstsFrom (ha : a ∈ as) (hs : key a ∉ seen) :
    ∃ b ∈ firstsFrom key seen as, key b = key a := by
  induction as generalizing seen with
  | nil => cases ha
  | cons b as ih =>
    unfold firstsFrom
    split
    · rename_i hb
      rcases List.mem_cons.1 ha with rfl | ha
      · exact absurd (List.contains_iff_mem.1 hb) hs
      · exact ih ha hs
    · by_cases hk : key a = key b
      · exact ⟨b, List.mem_cons_self, hk.symm⟩
      · rcases List.mem_cons.1 ha with rfl | ha
        · exact absurd rfl hk
        · have hs' : key a ∉ key b :: seen := by simp [hk, hs]
          obtain ⟨c, hc, hkc⟩ := ih ha hs'
          exact ⟨c, List.mem_cons_of_mem _ hc, hkc⟩

theorem exists_firsts (key : α → κ) (ha : a ∈ as) : ∃ b ∈ firsts key as, key b = key a :=
  exists_firstsFrom ha List.not_mem_nil

/-- The first element for a key comes before all others that have the key. -/
theorem firstsFrom_before {R : α → α → Prop} (hR : as.Pairwise R)
    (ha : a ∈ firstsFrom key seen as) (hb : b ∈ as) (hk : key b = key a) : b = a ∨ R a b := by
  induction as generalizing seen with
  | nil => cases hb
  | cons c as ih =>
    obtain ⟨hc, hR⟩ := List.pairwise_cons.1 hR
    unfold firstsFrom at ha
    split at ha
    · rename_i hseen
      rcases List.mem_cons.1 hb with rfl | hb
      · -- `b` was passed over since its key was seen, but nothing that is kept has such a key
        exact absurd (hk ▸ List.contains_iff_mem.1 hseen) (key_notMem_seen ha)
      · exact ih hR ha hb
    · rcases List.mem_cons.1 ha with rfl | ha
      · rcases List.mem_cons.1 hb with hb | hb
        · exact Or.inl hb
        · exact Or.inr (hc b hb)
      · rcases List.mem_cons.1 hb with rfl | hb
        · exact absurd (hk ▸ List.mem_cons_self) (key_notMem_seen ha)
        · exact ih hR ha hb

end Firsts

/-! ## Calls and their places -/

namespace Source

/-- The phrase calls the name, and the name is one that is followed. -/
def callsAs (s : Source) (callee : String) (c : Phrase) : Bool :=
  c.isCall && s.calleeName? c = some callee && callee ≠ "" && !Platform.isBuiltin callee

theorem callsAs_iff (s : Source) (callee : String) (c : Phrase) :
    s.callsAs callee c = true ↔
      c.isCall ∧ s.calleeName? c = some callee ∧ callee ≠ "" ∧
        Platform.isBuiltin callee = false := by
  simp [callsAs, and_assoc]

/-- The function has the caller's name, and something in it calls the callee. -/
def meets (s : Source) (caller callee : String) (f : NamedFunction) : Bool :=
  f.caller = caller && f.phrase.preorder.any (s.callsAs callee)

/-- The place where a caller and a callee meet first: the number of the function, and the number
of the call among all phrases of the function. -/
def firstPlace (s : Source) (caller callee : String) : Nat × Nat :=
  let i := s.namedFunctions.findIdx (s.meets caller callee)
  let inside := s.namedFunctions[i]?.map fun f => f.phrase.preorder.findIdx (s.callsAs callee)
  (i, inside.getD 0)

/-- The order of places: by the function, then by the phrase in it. -/
def Earlier : Nat × Nat → Nat × Nat → Prop := Prod.Lex (· < ·) (· < ·)

/-- The name that a phrase calls, if it is a call and the name is followed. -/
def followed? (s : Source) (c : Phrase) : Option String := if c.isCall then s.target? c else none

theorem followed?_eq_some_iff (s : Source) (c : Phrase) (callee : String) :
    s.followed? c = some callee ↔ s.callsAs callee c = true := by
  unfold followed? target? callsAs
  by_cases hc : c.isCall
  · simp only [hc, if_true, Option.filter_eq_some_iff]
    simp [and_assoc]
  · simp [hc]

theorem callSitesIn_eq (s : Source) (f : NamedFunction) :
    s.callSitesIn f = f.phrase.preorder.filterMap fun c =>
      (s.followed? c).map fun callee => ⟨f.caller, callee, c⟩ := by
  unfold callSitesIn calls
  rw [Tree.walk_eq_preorder, List.filterMap_filter]
  congr 1
  funext c
  unfold followed?
  split <;> rfl

/-- The call sites in a function, each with its place, when the function has the number `i`. -/
def placedIn (s : Source) (f : NamedFunction) (i : Nat) : List ((Nat × Nat) × CallSite) :=
  f.phrase.preorder.zipIdx.filterMap fun (c, j) =>
    (s.followed? c).map fun callee => ((i, j), ⟨f.caller, callee, c⟩)

/-- The call sites of a file, each with its place. -/
def placedSites (s : Source) : List ((Nat × Nat) × CallSite) :=
  s.namedFunctions.zipIdx.flatMap fun (f, i) => s.placedIn f i

theorem map_placedIn (s : Source) (f : NamedFunction) (i : Nat) :
    (s.placedIn f i).map Prod.snd = s.callSitesIn f := by
  rw [callSitesIn_eq]
  unfold placedIn
  rw [List.map_filterMap]
  conv => rhs; rw [← List.zipIdx_map_fst 0 f.phrase.preorder, List.filterMap_map]
  congr 1
  funext ⟨c, j⟩
  simp [Function.comp_def]

theorem map_placedSites (s : Source) : s.placedSites.map Prod.snd = s.callSites := by
  unfold placedSites callSites
  rw [List.map_flatMap]
  conv => rhs; rw [← List.zipIdx_map_fst 0 s.namedFunctions, List.flatMap_map]
  congr 1
  funext ⟨f, i⟩
  exact s.map_placedIn f i

theorem mem_placedSites (s : Source) (i j : Nat) (site : CallSite) :
    ((i, j), site) ∈ s.placedSites ↔
      ∃ f c, s.namedFunctions[i]? = some f ∧ f.phrase.preorder[j]? = some c ∧
        s.callsAs site.callee c ∧ site = ⟨f.caller, site.callee, c⟩ := by
  unfold placedSites placedIn
  simp only [List.mem_flatMap, List.mem_filterMap, Prod.exists, List.mem_zipIdx_iff_getElem?,
    Option.map_eq_some_iff, Prod.mk.injEq]
  constructor
  · rintro ⟨f, _, hf, c, _, hc, callee, hcallee, ⟨rfl, rfl⟩, rfl⟩
    exact ⟨f, c, hf, hc, (s.followed?_eq_some_iff c callee).1 hcallee, rfl⟩
  · rintro ⟨f, c, hf, hc, hcallee, hsite⟩
    exact ⟨f, i, hf, c, j, hc, site.callee, (s.followed?_eq_some_iff c _).2 hcallee, ⟨rfl, rfl⟩,
      hsite.symm⟩

theorem pairwise_zipIdx {α : Type} (as : List α) : as.zipIdx.Pairwise fun a b => a.2 < b.2 := by
  rw [List.pairwise_iff_getElem]
  intro i j hi hj hij
  simpa using hij

/-- The call sites come in the order of their places. -/
theorem pairwise_placedSites (s : Source) :
    s.placedSites.Pairwise fun a b => Earlier a.1 b.1 := by
  unfold placedSites
  rw [List.pairwise_flatMap]
  constructor
  · rintro ⟨f, i⟩ -
    unfold placedIn
    refine (pairwise_zipIdx f.phrase.preorder).filterMap _ ?_
    rintro ⟨c, j⟩ ⟨c', j'⟩ hlt b hb b' hb'
    obtain ⟨callee, -, rfl⟩ := Option.map_eq_some_iff.1 hb
    obtain ⟨callee', -, rfl⟩ := Option.map_eq_some_iff.1 hb'
    exact Prod.Lex.right i hlt
  · refine (pairwise_zipIdx s.namedFunctions).imp ?_
    rintro ⟨f, i⟩ ⟨f', i'⟩ hlt x hx y hy
    unfold placedIn at hx hy
    obtain ⟨⟨c, j⟩, -, hx⟩ := List.mem_filterMap.1 hx
    obtain ⟨⟨c', j'⟩, -, hy⟩ := List.mem_filterMap.1 hy
    obtain ⟨callee, -, rfl⟩ := Option.map_eq_some_iff.1 hx
    obtain ⟨callee', -, rfl⟩ := Option.map_eq_some_iff.1 hy
    exact Prod.Lex.left j j' hlt

/-! ## The first call sites -/

/-- The first call sites of all pairs of a caller and a callee, each with its place. -/
def firstSites (s : Source) : List ((Nat × Nat) × CallSite) :=
  firsts (fun x : (Nat × Nat) × CallSite => (x.2.caller, x.2.callee)) s.placedSites

theorem map_firstSites (s : Source) :
    s.callEdges = s.firstSites.map fun x => s.edgeOf s.symbols x.2 := by
  unfold callEdges firstSites firsts
  rw [← s.map_placedSites, ← map_firstsFrom, List.map_map]
  rfl

/-- No call site of the pair stands at an earlier place than the first one. -/
theorem firstSites_le {s : Source} {place place' : Nat × Nat} {site site' : CallSite}
    (h : (place, site) ∈ s.firstSites) (h' : (place', site') ∈ s.placedSites)
    (hcaller : site'.caller = site.caller) (hcallee : site'.callee = site.callee) :
    place' = place ∨ Earlier place place' := by
  have hkey : (site'.caller, site'.callee) = (site.caller, site.callee) := by
    rw [hcaller, hcallee]
  rcases firstsFrom_before s.pairwise_placedSites h h' hkey with heq | hlt
  · exact Or.inl (congrArg Prod.fst heq)
  · exact Or.inr hlt

theorem meets_iff (s : Source) (caller callee : String) (f : NamedFunction) :
    s.meets caller callee f = true ↔
      f.caller = caller ∧ ∃ c ∈ f.phrase.preorder, s.callsAs callee c = true := by
  simp [meets]

/-- Before the function of a first call site, the caller and the callee do not meet. -/
theorem not_meets_before {s : Source} {i j k : Nat} {site : CallSite} {f : NamedFunction}
    (h : ((i, j), site) ∈ s.firstSites) (hk : k < i) (hf : s.namedFunctions[k]? = some f) :
    s.meets site.caller site.callee f = false := by
  rw [Bool.eq_false_iff]
  intro hmeets
  obtain ⟨hcaller, c, hc, hcalls⟩ := (s.meets_iff _ _ f).1 hmeets
  obtain ⟨l, hl⟩ := List.getElem?_of_mem hc
  -- what is called there would be a call site of the pair at an earlier place
  have hsite : ((k, l), ⟨f.caller, site.callee, c⟩) ∈ s.placedSites :=
    (s.mem_placedSites k l _).2 ⟨f, c, hf, hl, hcalls, rfl⟩
  rcases firstSites_le h hsite hcaller rfl with heq | hlt
  · cases heq
    omega
  · rcases Prod.lex_def.1 hlt with hlt | ⟨heq, -⟩
    · exact absurd hlt (by simp only; omega)
    · simp only at heq
      omega

/-- Before a first call site, nothing in its function calls the callee. -/
theorem not_callsAs_before {s : Source} {i j k : Nat} {site : CallSite} {f : NamedFunction}
    {c : Phrase} (h : ((i, j), site) ∈ s.firstSites) (hf : s.namedFunctions[i]? = some f)
    (hcaller : f.caller = site.caller) (hk : k < j) (hc : f.phrase.preorder[k]? = some c) :
    s.callsAs site.callee c = false := by
  rw [Bool.eq_false_iff]
  intro hcalls
  have hsite : ((i, k), ⟨f.caller, site.callee, c⟩) ∈ s.placedSites :=
    (s.mem_placedSites i k _).2 ⟨f, c, hf, hc, hcalls, rfl⟩
  rcases firstSites_le h hsite hcaller rfl with heq | hlt
  · cases heq
    omega
  · rcases Prod.lex_def.1 hlt with hlt | ⟨-, hlt⟩
    · exact absurd hlt (Nat.lt_irrefl i)
    · exact absurd hlt (by simp only; omega)

/-- The function of a first call site is the first one in which the caller and the callee meet,
and the call is the first one in it. -/
theorem first_of_mem_firstSites {s : Source} {i j : Nat} {site : CallSite}
    (h : ((i, j), site) ∈ s.firstSites) :
    ∃ f, s.namedFunctions.find? (s.meets site.caller site.callee) = some f ∧
      f.phrase.preorder.find? (s.callsAs site.callee) = some site.phrase ∧
      s.firstPlace site.caller site.callee = (i, j) := by
  have hmem := (firstsFrom_sublist _ _ _).subset h
  obtain ⟨f, c, hf, hc, hcalls, hsite⟩ := (s.mem_placedSites i j site).1 hmem
  have hcaller : f.caller = site.caller := by rw [hsite]
  have hphrase : site.phrase = c := by rw [hsite]
  have hmeets : s.meets site.caller site.callee f = true :=
    (s.meets_iff _ _ f).2 ⟨hcaller, c, List.mem_of_getElem? hc, hcalls⟩
  obtain ⟨hi, hfi⟩ := List.getElem?_eq_some_iff.1 hf
  obtain ⟨hj, hcj⟩ := List.getElem?_eq_some_iff.1 hc
  have hfunctions : ∀ k < i, ∀ hk : k < s.namedFunctions.length,
      s.meets site.caller site.callee s.namedFunctions[k] = false :=
    fun k hk _ => not_meets_before h hk (List.getElem?_eq_getElem _)
  have hothers : ∀ k < j, ∀ hk : k < f.phrase.preorder.length,
      s.callsAs site.callee f.phrase.preorder[k] = false :=
    fun k hk _ => not_callsAs_before h hf hcaller hk (List.getElem?_eq_getElem _)
  refine ⟨f, ?_, ?_, ?_⟩
  · rw [List.find?_eq_some_iff_getElem]
    exact ⟨hmeets, i, hi, hfi, fun k hk => by rw [hfunctions k hk]; rfl⟩
  · rw [List.find?_eq_some_iff_getElem, hphrase]
    exact ⟨hcalls, j, hj, hcj, fun k hk => by rw [hothers k hk]; rfl⟩
  · have hidx : s.namedFunctions.findIdx (s.meets site.caller site.callee) = i :=
      (List.findIdx_eq hi).2 ⟨hfi ▸ hmeets, fun k hk => hfunctions k hk _⟩
    have hidx' : f.phrase.preorder.findIdx (s.callsAs site.callee) = j :=
      (List.findIdx_eq hj).2 ⟨hcj ▸ hcalls, fun k hk => hothers k hk _⟩
    simp [firstPlace, hidx, hf, hidx']

/-! ## The laws -/

theorem exists_firstSite {s : Source} {e : CallEdge} (h : e ∈ s.callEdges) :
    ∃ i j site, ((i, j), site) ∈ s.firstSites ∧ s.edgeOf s.symbols site = e := by
  rw [map_firstSites] at h
  obtain ⟨⟨⟨i, j⟩, site⟩, hsite, rfl⟩ := List.mem_map.1 h
  exact ⟨i, j, site, hsite, rfl⟩

theorem nodup_callEdges (s : Source) : (s.callEdges.map fun e => (e.caller, e.callee)).Nodup := by
  rw [map_firstSites, List.map_map]
  exact nodup_keys_firstsFrom _ [] s.placedSites

/-- A caller and a callee have an edge if a function of the caller's name holds a call of the
callee. -/
theorem exists_edge_iff (s : Source) (caller callee : String) :
    (∃ e ∈ s.callEdges, e.caller = caller ∧ e.callee = callee) ↔
      ∃ f ∈ s.namedFunctions, s.meets caller callee f = true := by
  constructor
  · rintro ⟨e, he, rfl, rfl⟩
    obtain ⟨i, j, site, hsite, rfl⟩ := exists_firstSite he
    obtain ⟨f, hf, -⟩ := first_of_mem_firstSites hsite
    exact ⟨f, List.mem_of_find?_eq_some hf, List.find?_some hf⟩
  · rintro ⟨f, hf, hmeets⟩
    obtain ⟨hcaller, c, hc, hcalls⟩ := (s.meets_iff caller callee f).1 hmeets
    obtain ⟨i, hi⟩ := List.getElem?_of_mem hf
    obtain ⟨j, hj⟩ := List.getElem?_of_mem hc
    have hsite : ((i, j), ⟨f.caller, callee, c⟩) ∈ s.placedSites :=
      (s.mem_placedSites i j _).2 ⟨f, c, hi, hj, hcalls, rfl⟩
    obtain ⟨first, hfirst, hkey⟩ :=
      exists_firsts (fun x : (Nat × Nat) × CallSite => (x.2.caller, x.2.callee)) hsite
    obtain ⟨hfirstCaller, hfirstCallee⟩ := Prod.mk.inj hkey
    refine ⟨s.edgeOf s.symbols first.2, ?_, hfirstCaller.trans hcaller, hfirstCallee⟩
    rw [map_firstSites]
    exact List.mem_map_of_mem hfirst

theorem pairwise_callEdges (s : Source) :
    s.callEdges.Pairwise fun e e' =>
      Earlier (s.firstPlace e.caller e.callee) (s.firstPlace e'.caller e'.callee) := by
  rw [map_firstSites, List.pairwise_map]
  have hsorted : s.firstSites.Pairwise fun a b => Earlier a.1 b.1 :=
    s.pairwise_placedSites.sublist (firstsFrom_sublist _ _ _)
  refine hsorted.imp_of_mem ?_
  rintro ⟨⟨i, j⟩, site⟩ ⟨⟨i', j'⟩, site'⟩ hsite hsite' hlt
  obtain ⟨-, -, -, hplace⟩ := first_of_mem_firstSites hsite
  obtain ⟨-, -, -, hplace'⟩ := first_of_mem_firstSites hsite'
  simp only [edgeOf]
  rw [hplace, hplace']
  exact hlt

/-- The call edges of a file. No two have the same caller and callee. A caller and a callee have
an edge exactly if some function of the caller's name holds, or is, a call of the callee that is
to be followed; so a name that is called outside of all functions only is the callee of none. An
edge has the location of the first such call in the first such function, and the edges come in
the order of these first places. -/
theorem callEdges_first_occurrences (s : Source) :
    (s.callEdges.map fun e => (e.caller, e.callee)).Nodup ∧
    (∀ caller callee, (∃ e ∈ s.callEdges, e.caller = caller ∧ e.callee = callee) ↔
      ∃ f ∈ s.namedFunctions, f.caller = caller ∧ ∃ c ∈ f.phrase.preorder,
        Phrase.isCall c ∧ s.calleeName? c = some callee ∧ callee ≠ "" ∧
          Platform.isBuiltin callee = false) ∧
    (∀ callee, (∀ f ∈ s.namedFunctions, ∀ c ∈ f.phrase.preorder,
        Phrase.isCall c → s.calleeName? c ≠ some callee) →
      ∀ e ∈ s.callEdges, e.callee ≠ callee) ∧
    (∀ e ∈ s.callEdges, ∃ f c,
      s.namedFunctions.find? (s.meets e.caller e.callee) = some f ∧
      f.phrase.preorder.find? (s.callsAs e.callee) = some c ∧ e.location = s.locationOf c) ∧
    s.callEdges.Pairwise fun e e' =>
      Earlier (s.firstPlace e.caller e.callee) (s.firstPlace e'.caller e'.callee) := by
  have hiff : ∀ caller callee, (∃ e ∈ s.callEdges, e.caller = caller ∧ e.callee = callee) ↔
      ∃ f ∈ s.namedFunctions, f.caller = caller ∧ ∃ c ∈ f.phrase.preorder,
        Phrase.isCall c ∧ s.calleeName? c = some callee ∧ callee ≠ "" ∧
          Platform.isBuiltin callee = false := by
    intro caller callee
    rw [exists_edge_iff]
    simp only [meets_iff, callsAs_iff]
  refine ⟨s.nodup_callEdges, hiff, ?_, ?_, s.pairwise_callEdges⟩
  · rintro callee hnone e he rfl
    obtain ⟨f, hf, -, c, hc, hcall, hname, -⟩ := (hiff e.caller e.callee).1 ⟨e, he, rfl, rfl⟩
    exact hnone f hf c hc hcall hname
  · intro e he
    obtain ⟨i, j, site, hsite, rfl⟩ := exists_firstSite he
    obtain ⟨f, hf, hc, -⟩ := first_of_mem_firstSites hsite
    exact ⟨f, site.phrase, hf, hc, rfl⟩

end Source

end CodeAtlas
