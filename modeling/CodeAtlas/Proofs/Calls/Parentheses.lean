-- Functions in redundant parentheses. The function that a variable is bound to is found through any
-- number of parentheses around it, whatever comments stand in them. So the functions of a file and
-- their calls do not depend on such parentheses.
import CodeAtlas.Proofs.Calls.FirstOccurrence
import CodeAtlas.Proofs.Calls.Resolution
import CodeAtlas.Proofs.Source.Wrapping

namespace CodeAtlas

namespace Source

variable {s s' : Source} {p p' parent : Phrase}

/-! ## Functions -/

mutual

/-- What is inside all parentheses is found again inside all parentheses. -/
theorem Wraps.unwrap : (p : Phrase) → {p' : Phrase} → s.Wraps s' p p' →
    s.Wraps s' p.unwrap p'.unwrap
  | .node t ps, .node t' ps', h => by
    have hkind : t'.kind = t.kind := h.kind
    unfold Phrase.unwrap
    rw [hkind]
    split
    · rename_i hparens
      -- parentheses are no declarator, so what stands in them has no new ones around it
      have hother : t.kind ≠ "variable_declarator" := by rw [hparens]; decide
      have hparts : List.Forall₂ (s.Kept s' (.node t ps)) ps ps' := h.kept hother
      have hinside := unwrapOnly_kept ps hparts
      generalize Phrase.unwrapOnly ps = inside at hinside
      generalize Phrase.unwrapOnly ps' = inside' at hinside
      cases hinside with
      | none => exact h
      | some hwraps => exact hwraps
    · exact h

theorem unwrapOnly_kept : (ps : List Phrase) → {parent : Phrase} → {ps' : List Phrase} →
    List.Forall₂ (s.Kept s' parent) ps ps' →
      Option.Rel (s.Wraps s') (Phrase.unwrapOnly ps) (Phrase.unwrapOnly ps')
  | [], _, _, .nil => .none
  | p :: ps, _, _, .cons hkept hrest => by
    unfold Phrase.unwrapOnly
    rw [hkept.wraps.isContent, any_isContent_kept hrest]
    split
    · split
      · exact .none
      · exact .some (hkept.wraps.unwrap p)
    · exact unwrapOnly_kept ps hrest

end

/-- A declarator binds a name that is spelled the same to the same function. -/
theorem Wraps.bound? (h : s.Wraps s' p p') :
    Option.Rel (fun x x' => s'.textOf x'.1 = s.textOf x.1 ∧ s.Wraps s' x.2 x'.2)
      p.bound? p'.bound? := by
  unfold Phrase.bound?
  rcases h.child?_kept .name (Or.inr (by decide)) with
    ⟨hnone, hnone'⟩ | ⟨name, name', hname, hname', -, hkept⟩
  · rw [hnone, hnone']
    exact .none
  · rcases h.child?_cases .value with ⟨hnone, hnone'⟩ | ⟨v, v', hv, hv', -, hvalue⟩
    · rw [hname, hname', hnone, hnone']
      exact .none
    · have hfunction : s.Wraps s' v.unwrap v'.unwrap := by
        rcases hvalue with hkept | hinside
        · exact hkept.wraps.unwrap v
        · obtain ⟨layers, u, rfl, hwraps⟩ := hinside.inside
          have hcontent : u.isContent = true := by rw [hwraps.isContent, hinside.content]
          rw [Phrase.unwrap_wrapped layers hcontent]
          exact hwraps.unwrap v
      rw [hname, hname', hv, hv']
      dsimp only
      rw [hkept.wraps.kind, hfunction.isFunctionValue]
      split
      · rename_i hbound
        have hspelled : p.isSpelled name = true := by
          rw [Bool.and_eq_true, decide_eq_true_eq] at hbound
          simp [Phrase.isSpelled, hbound.1]
        exact .some ⟨hkept.text hspelled, hfunction⟩
      · exact .none

theorem Wraps.defaultFunction? (h : s.Wraps s' p p') :
    Option.Rel (s.Wraps s') p.defaultFunction? p'.defaultFunction? := by
  unfold Phrase.defaultFunction?
  by_cases hkind : p.kind = "export_statement"
  · have hother : p.kind ≠ "variable_declarator" := by rw [hkind]; decide
    rw [h.kind, h.hasChild hother]
    rcases h.child?_kept .value (Or.inl hother) with
      ⟨hnone, hnone'⟩ | ⟨v, v', hv, hv', -, hkept⟩
    · rw [hnone, hnone']
      split <;> exact .none
    · rw [hv, hv', Option.filter_some, Option.filter_some, hkept.wraps.kind]
      split
      · split
        · exact .some hkept.wraps
        · exact .none
      · exact .none
  · simp [h.kind, hkind]

/-- A function that is found again: it has its name, and its phrase is found again. -/
def SameFunction (s s' : Source) (f f' : NamedFunction) : Prop :=
  f'.name = f.name ∧ s.Wraps s' f.phrase f'.phrase

theorem Wraps.name_of_declaration (h : s.Wraps s' p p') (hdeclaration : p.isDeclaration = true) :
    (p'.child? .name).map s'.textOf = (p.child? .name).map s.textOf := by
  rcases h.child?_kept .name (Or.inr (by decide)) with
    ⟨hnone, hnone'⟩ | ⟨name, name', hname, hname', hrole, hkept⟩
  · rw [hnone, hnone']
    rfl
  · have hspelled : p.isSpelled name = true := by
      simp [Phrase.isSpelled, hdeclaration, hrole]
    rw [hname, hname', Option.map_some, Option.map_some, hkept.text hspelled]

theorem Wraps.function? (h : s.Wraps s' p p') :
    Option.Rel (s.SameFunction s') (s.function? p) (s'.function? p') := by
  unfold Source.function?
  rw [h.isDeclaration, h.kind]
  split
  · rename_i hdeclaration
    exact .some ⟨h.name_of_declaration hdeclaration, h⟩
  · split
    · have hbound := h.bound?
      generalize p.bound? = x at hbound
      generalize p'.bound? = x' at hbound
      cases hbound with
      | none => exact .none
      | some hsame => exact .some ⟨congrArg some hsame.1, hsame.2⟩
    · have hdefault := h.defaultFunction?
      generalize p.defaultFunction? = x at hdefault
      generalize p'.defaultFunction? = x' at hdefault
      cases hdefault with
      | none => exact .none
      | some hsame => exact .some ⟨rfl, hsame⟩

theorem flatMap_eq_of_forall₂ {α α' β : Type} {R : α → α' → Prop} {f : α → List β}
    {f' : α' → List β} {as : List α} {as' : List α'} (h : List.Forall₂ R as as')
    (hf : ∀ a a', R a a' → f' a' = f a) : as'.flatMap f' = as.flatMap f := by
  induction h with
  | nil => rfl
  | cons hR _ ih => rw [List.flatMap_cons, List.flatMap_cons, hf _ _ hR, ih]

theorem filterMap_eq_of_forall₂ {α α' β : Type} {R : α → α' → Prop} {f : α → Option β}
    {f' : α' → Option β} {as : List α} {as' : List α'} (h : List.Forall₂ R as as')
    (hf : ∀ a a', R a a' → f' a' = f a) : as'.filterMap f' = as.filterMap f := by
  induction h with
  | nil => rfl
  | cons hR _ ih => rw [List.filterMap_cons, List.filterMap_cons, hf _ _ hR, ih]

/-! ## Calls -/

theorem Wraps.isCall (h : s.Wraps s' p p') : p'.isCall = p.isCall := by
  simp [Phrase.isCall, h.kind]

theorem Kept.textOf_identifier {c c' : Phrase} (h : s.Kept s' parent c c')
    (hkind : c.kind = "identifier") : s'.textOf c' = s.textOf c :=
  h.text (by simp [Phrase.isSpelled, hkind])

theorem Wraps.memberName? (h : s.Wraps s' p p') (hkind : p.kind = "member_expression") :
    s'.memberName? p' = s.memberName? p := by
  have hother : p.kind ≠ "variable_declarator" := by rw [hkind]; decide
  unfold Source.memberName?
  rw [h.hasChild hother]
  rcases h.child?_kept .object (Or.inl hother) with
    ⟨hnone, hnone'⟩ | ⟨object, object', hobject, hobject', -, hkeptObject⟩
  · rw [hnone, hnone']
  · rcases h.child?_kept .property (Or.inl hother) with
      ⟨hnone, hnone'⟩ | ⟨property, property', hproperty, hproperty', -, hkeptProperty⟩
    · rw [hobject, hobject', hnone, hnone']
    · rw [hobject, hobject', hproperty, hproperty']
      dsimp only
      rw [hkeptObject.wraps.kind, hkeptProperty.wraps.kind]
      split
      · rfl
      · split
        · rename_i hkinds
          rw [Bool.and_eq_true, decide_eq_true_eq, decide_eq_true_eq] at hkinds
          have hspelled : p.isSpelled property = true := by simp [Phrase.isSpelled, hkinds.2]
          rw [hkeptObject.textOf_identifier hkinds.1, hkeptProperty.text hspelled]
        · rfl

theorem Wraps.calleeName? (h : s.Wraps s' p p') (hcall : p.isCall = true) :
    s'.calleeName? p' = s.calleeName? p := by
  have hkind : p.kind = "call_expression" := by simpa [Phrase.isCall] using hcall
  have hother : p.kind ≠ "variable_declarator" := by rw [hkind]; decide
  have harguments : ((p'.child? .arguments).any fun a => a.kind = "template_string") =
      (p.child? .arguments).any fun a => a.kind = "template_string" := by
    rcases h.child?_kept .arguments (Or.inl hother) with
      ⟨hnone, hnone'⟩ | ⟨arguments, arguments', harguments, harguments', -, hkept⟩
    · rw [hnone, hnone']
    · rw [harguments, harguments', Option.any_some, Option.any_some, hkept.wraps.kind]
  unfold Source.calleeName?
  rw [h.hasChild hother, harguments]
  rcases h.child?_kept .function (Or.inl hother) with
    ⟨hnone, hnone'⟩ | ⟨callee, callee', hcallee, hcallee', -, hkept⟩
  · rw [hnone, hnone']
  · rw [hcallee, hcallee']
    dsimp only
    rw [hkept.wraps.kind]
    by_cases hidentifier : callee.kind = "identifier"
    · rw [if_pos hidentifier, if_pos hidentifier, hkept.textOf_identifier hidentifier]
    · by_cases hmember : callee.kind = "member_expression"
      · rw [if_neg hidentifier, if_neg hidentifier, if_pos hmember, if_pos hmember,
          hkept.wraps.memberName? hmember]
      · rw [if_neg hidentifier, if_neg hidentifier, if_neg hmember, if_neg hmember]

theorem Wraps.followed? (h : s.Wraps s' p p') : s'.followed? p' = s.followed? p := by
  unfold Source.followed? target?
  rw [h.isCall]
  split
  · rename_i hcall
    rw [h.calleeName? hcall]
  · rfl

/-! ## Imports -/

theorem Wraps.specifierName? (h : s.Wraps s' p p') : s'.specifierName? p' = s.specifierName? p := by
  have hname : ∀ c c', s.Kept s' p c c' →
      ((some c').filter fun n => n.kind = "identifier").map s'.textOf =
        ((some c).filter fun n => n.kind = "identifier").map s.textOf := by
    intro c c' hkept
    rw [Option.filter_some, Option.filter_some, hkept.wraps.kind]
    split
    · rename_i hkind
      rw [decide_eq_true_eq] at hkind
      rw [Option.map_some, Option.map_some, hkept.textOf_identifier hkind]
    · rfl
  unfold Source.specifierName?
  rcases h.child?_kept .alias (Or.inr (by decide)) with
    ⟨hnone, hnone'⟩ | ⟨c, c', hc, hc', -, hkept⟩
  · rcases h.child?_kept .name (Or.inr (by decide)) with
      ⟨hnone₂, hnone₂'⟩ | ⟨c, c', hc, hc', -, hkept⟩
    · rw [hnone, hnone', hnone₂, hnone₂']
      rfl
    · rw [hnone, hnone', hc, hc']
      exact hname c c' hkept
  · rw [hc, hc']
    exact hname c c' hkept

theorem Kept.clauseNames {c c' : Phrase} (h : s.Kept s' parent c c') :
    s'.clauseNames c' = s.clauseNames c := by
  unfold Source.clauseNames
  rw [h.wraps.kind]
  split
  · rename_i hkind
    rw [h.textOf_identifier hkind]
  · split
    · rename_i hkind
      have hother : c.kind ≠ "variable_declarator" := by rw [hkind]; decide
      unfold Phrase.namedChildren
      rw [List.filterMap_filter, List.filterMap_filter, List.filterMap_filter,
        List.filterMap_filter]
      refine filterMap_eq_of_forall₂ (h.wraps.kept hother) ?_
      intro q q' hkept
      rw [hkept.wraps.named, hkept.wraps.kind, hkept.wraps.specifierName?]
    · rfl

/-- The clauses of an import bind the same names again. -/
theorem flatMap_clauses_kept {ps ps' : List Phrase} (h : List.Forall₂ (s.Kept s' parent) ps ps') :
    ((ps'.filter fun c : Phrase => c.kind = "import_clause").flatMap
        fun clause => clause.children.flatMap s'.clauseNames) =
      (ps.filter fun c : Phrase => c.kind = "import_clause").flatMap
        fun clause => clause.children.flatMap s.clauseNames := by
  induction h with
  | nil => rfl
  | @cons c c' _ _ hkept _ ih =>
    rw [List.filter_cons, List.filter_cons, hkept.wraps.kind]
    split
    · rename_i hkind
      have hother : c.kind ≠ "variable_declarator" := by
        rw [decide_eq_true_eq] at hkind
        rw [hkind]
        decide
      rw [List.flatMap_cons, List.flatMap_cons, ih,
        flatMap_eq_of_forall₂ (hkept.wraps.kept hother) fun _ _ hpart => hpart.clauseNames]
    · exact ih

theorem Wraps.bindingsAt (h : s.Wraps s' p p') : s'.bindingsAt p' = s.bindingsAt p := by
  unfold Source.bindingsAt
  rw [h.kind]
  split
  · rename_i hkind
    have hother : p.kind ≠ "variable_declarator" := by rw [hkind]; decide
    unfold Source.bindings
    rcases h.child?_kept .source (Or.inl hother) with
      ⟨hnone, hnone'⟩ | ⟨c, c', hc, hc', hrole, hkept⟩
    · rw [hnone, hnone']
    · have hspelled : p.isSpelled c = true := by simp [Phrase.isSpelled, hkind, hrole]
      have hmodule : s'.unquoted c' = s.unquoted c := by
        unfold unquoted
        rw [hkept.text hspelled]
      rw [hc, hc']
      dsimp only
      rw [hmodule, flatMap_clauses_kept (h.kept hother)]
  · rfl

/-! ## The analysis -/

theorem isDeclaration_leaf {t : Token} (h : t.IsPadding) :
    (Phrase.leaf t).isDeclaration = false := by
  rcases h with h | ⟨-, h⟩
  · simp [Phrase.isDeclaration, Phrase.kind, Phrase.leaf, Tree.label, h]
  · exact h

theorem skipsParens_function? (s : Source) : SkipsParens fun q => (s.function? q).toList where
  padding t ht := by
    have hbound : (Phrase.leaf t).bound? = none := rfl
    have hdefault : (Phrase.leaf t).defaultFunction? = none := by
      simp [Phrase.defaultFunction?, Phrase.hasChild, Phrase.leaf, Tree.children]
    simp [function?, isDeclaration_leaf ht, hbound, hdefault]
  parens q hq := by
    simp [function?, Phrase.isDeclaration, Phrase.defaultFunction?, hq]

theorem skipsParens_followed? (s : Source) (caller : String) :
    SkipsParens fun q =>
      ((s.followed? q).map fun callee => CallSite.mk caller callee q).toList where
  padding t _ := by
    have hcallee : s.calleeName? (Phrase.leaf t) = none := rfl
    simp [followed?, target?, hcallee]
  parens q hq := by
    simp [followed?, Phrase.isCall, hq]

theorem skipsParens_bindingsAt (s : Source) : SkipsParens s.bindingsAt where
  padding t _ := by
    have hbindings : s.bindings (Phrase.leaf t) = [] := rfl
    simp [bindingsAt, hbindings]
  parens q hq := by
    simp [bindingsAt, hq]

/-- A call site that is found again. -/
structure SameSite (s s' : Source) (site site' : CallSite) : Prop where
  caller : site'.caller = site.caller
  callee : site'.callee = site.callee
  phrase : s.Wraps s' site.phrase site'.phrase

theorem Wraps.namedFunctions (h : s.Wraps s' s.root s'.root) :
    List.Forall₂ (s.SameFunction s') s.namedFunctions s'.namedFunctions := by
  unfold Source.namedFunctions
  rw [Tree.walk_eq_preorder, Tree.walk_eq_preorder]
  exact h.filterMap_preorder s'.skipsParens_function? fun _ _ hwraps => hwraps.function?

theorem Wraps.symbols (h : s.Wraps s' s.root s'.root) : s'.symbols = s.symbols := by
  have hfunctions : s'.symbols.functions = s.symbols.functions := by
    rw [functions_eq, functions_eq]
    exact filterMap_eq_of_forall₂ h.namedFunctions fun _ _ hsame => hsame.1
  have himports : s'.root.walk.flatMap s'.bindingsAt = s.root.walk.flatMap s.bindingsAt := by
    have hbindings := h.flatMap_preorder (R := Eq) s'.skipsParens_bindingsAt (fun q q' hwraps => by
      rw [List.forall₂_eq_eq_eq, hwraps.bindingsAt]) s.root
    rw [List.forall₂_eq_eq_eq] at hbindings
    rw [Tree.walk_eq_preorder, Tree.walk_eq_preorder, hbindings]
  unfold Source.symbols at hfunctions ⊢
  rw [himports]
  exact congrArg (fun functions => Symbols.mk functions _) hfunctions

theorem SameFunction.callSitesIn {f f' : NamedFunction} (h : s.SameFunction s' f f') :
    List.Forall₂ (s.SameSite s') (s.callSitesIn f) (s'.callSitesIn f') := by
  have hcaller : f'.caller = f.caller := by
    unfold NamedFunction.caller
    rw [h.1]
  rw [callSitesIn_eq, callSitesIn_eq]
  refine h.2.filterMap_preorder (s'.skipsParens_followed? f'.caller) ?_
  intro q q' hwraps
  rw [hwraps.followed?]
  cases s.followed? q with
  | none => exact .none
  | some callee => exact .some ⟨hcaller, rfl, hwraps⟩

theorem Wraps.callSites (h : s.Wraps s' s.root s'.root) :
    List.Forall₂ (s.SameSite s') s.callSites s'.callSites :=
  List.rel_flatMap h.namedFunctions fun _ _ hsame => hsame.callSitesIn

/-- What is found again, one by one and with the same keys, is so when only the first element for
every key is taken. -/
theorem forall₂_firstsFrom {α κ : Type} [BEq κ] {R : α → α → Prop} {key : α → κ} {as as' : List α}
    (h : List.Forall₂ R as as') (hkey : ∀ a a', R a a' → key a' = key a) (seen : List κ) :
    List.Forall₂ R (firstsFrom key seen as) (firstsFrom key seen as') := by
  induction h generalizing seen with
  | nil => exact .nil
  | @cons a a' _ _ hR _ ih =>
    unfold firstsFrom
    rw [hkey a a' hR]
    split
    · exact ih seen
    · exact .cons hR (ih _)

/-- An edge that is found again: it has its caller, its callee and its resolution, and the call that
it stands for is found again where it is. -/
structure SameEdge (s s' : Source) (e e' : CallEdge) : Prop where
  caller : e'.caller = e.caller
  callee : e'.callee = e.callee
  resolution : e'.resolution = e.resolution
  location : ∃ call call', s.Wraps s' call call' ∧ e.location = s.locationOf call ∧
    e'.location = s'.locationOf call'

theorem Wraps.callEdges (h : s.Wraps s' s.root s'.root) :
    List.Forall₂ (s.SameEdge s') s.callEdges s'.callEdges := by
  -- sites have the pairs that they had, so the same ones come first for their pair
  have hkey : ∀ site site', s.SameSite s' site site' →
      (site'.caller, site'.callee) = (site.caller, site.callee) := by
    intro site site' hsame
    rw [hsame.caller, hsame.callee]
  unfold Source.callEdges
  rw [h.symbols]
  refine List.rel_map ?_ (forall₂_firstsFrom h.callSites hkey [])
  intro site site' hsame
  refine ⟨hsame.caller, hsame.callee, ?_, site.phrase, site'.phrase, hsame.phrase, rfl, rfl⟩
  simp only [edgeOf]
  rw [hsame.callee]

/-- Redundant parentheses do not count. Whatever pairs of parentheses are put around the value of a
declarator, with whatever comments in them, the declarator binds the same name to the same function,
or binds none. A file is found again when this is done to a declarator anywhere in it, also if the
rest of the text moves. Where a file is found again, it has the functions, the imports and the call
edges that it had. -/
theorem bound_functions_in_parentheses (s : Source) :
    (∀ (d : Declarator) layers inner,
      (d.parenthesized layers inner).bound?.map (fun x => (x.1, x.2.unassigned)) =
        d.phrase.bound?.map fun x => (x.1, x.2.unassigned)) ∧
    (∀ (d : Declarator) place layers inner, s.root.at? place = some d.phrase →
      s.Wraps (s.inParens d place layers inner) s.root (s.inParens d place layers inner).root) ∧
    ∀ s' : Source, s.Wraps s' s.root s'.root → s'.symbols = s.symbols ∧
      List.Forall₂ (s.SameFunction s') s.namedFunctions s'.namedFunctions ∧
      List.Forall₂ (s.SameEdge s') s.callEdges s'.callEdges :=
  ⟨fun d layers inner => d.bound?_parenthesized layers inner,
    fun _ _ layers inner h => s.wraps_inParens h layers inner,
    fun _ h => ⟨h.symbols, h.namedFunctions, h.callEdges⟩⟩

/-! ## A function in two pairs of parentheses -/

open Phrase (leaf)

/-- A sign of the language at an offset. -/
def sign (text : String) (i : Nat) : Token :=
  ⟨text, i, ⟨0, i⟩, i + text.length, false, false, false, false, none⟩

def word (kind : String) (start stop : Nat) (role : Option Role) : Token :=
  ⟨kind, start, ⟨0, start⟩, stop, true, false, false, false, role⟩

/-- The function `() => g()` at an offset. -/
def arrowToG (i : Nat) (role : Option Role) : Phrase :=
  .node (word "arrow_function" i (i + 9) role)
    [.node (word "formal_parameters" i (i + 2) none) [leaf (sign "(" i), leaf (sign ")" (i + 1))],
      leaf (sign "=>" (i + 3)),
      .node (word "call_expression" (i + 6) (i + 9) none)
        [leaf (word "identifier" (i + 6) (i + 7) (some .function)),
          .node (word "arguments" (i + 7) (i + 9) (some .arguments))
            [leaf (sign "(" (i + 7)), leaf (sign ")" (i + 8))]]]

/-- The file that binds `f` to a value. -/
def bindingOfF (text : String) (stop : Nat) (value : Phrase) : Source where
  dialect := .tsx
  bytes := Utf8.encode text.toList
  root := .node (word "program" 0 stop none) [.node (word "lexical_declaration" 0 stop none)
    [leaf (sign "const" 0), .node (word "variable_declarator" 6 stop none)
      [leaf (word "identifier" 6 7 (some .name)), leaf (sign "=" 8), value]]]

def outerParens : Parens where
  token := word "parenthesized_expression" 10 39 (some .value)
  before := [sign "(" 10]
  after := [word "comment" 31 38 none, sign ")" 38]
  kind := rfl
  named := rfl
  padding_before := by decide
  padding_after := by decide

def innerParens : Parens where
  token := word "parenthesized_expression" 11 30 none
  before := [sign "(" 11, word "comment" 12 19 none]
  after := [sign ")" 29]
  kind := rfl
  named := rfl
  padding_before := by decide
  padding_after := by decide

def plainBinding : Source := bindingOfF "const f = () => g()" 19 (arrowToG 10 (some .value))

def wrappedBinding : Source :=
  bindingOfF "const f = ((/* a */ () => g()) /* b */)" 39
    ((arrowToG 20 none).wrapped [outerParens, innerParens])

def plainDeclarator : Declarator where
  token := word "variable_declarator" 6 19 none
  before := [leaf (word "identifier" 6 7 (some .name)), leaf (sign "=" 8)]
  value := arrowToG 10 (some .value)
  after := []
  kind := rfl
  first := by decide
  role := rfl
  content := rfl

theorem wraps_arrowToG :
    plainBinding.Wraps wrappedBinding (arrowToG 10 (some .value)) (arrowToG 20 none) := by
  refine .node rfl rfl ?_
  repeat' first
    | exact .nil
    | refine .keep (.node rfl rfl ?_) rfl (by decide +kernel) ?_

theorem bound_functions_in_parentheses_nested :
    plainBinding.Wraps wrappedBinding plainBinding.root wrappedBinding.root ∧
      plainBinding.root.at? [0, 1] = some plainDeclarator.phrase ∧
      plainBinding.callEdges = [⟨"f", "g", ⟨1, 16⟩, .unknown⟩] ∧
      wrappedBinding.callEdges = [⟨"f", "g", ⟨1, 26⟩, .unknown⟩] ∧
      wrappedBinding.symbols = plainBinding.symbols ∧
      List.Forall₂ (plainBinding.SameFunction wrappedBinding) plainBinding.namedFunctions
        wrappedBinding.namedFunctions ∧
      List.Forall₂ (plainBinding.SameEdge wrappedBinding) plainBinding.callEdges
        wrappedBinding.callEdges ∧
      plainBinding.Wraps
        (plainBinding.inParens plainDeclarator [0, 1] [outerParens, innerParens] none)
        plainBinding.root
        (plainBinding.inParens plainDeclarator [0, 1] [outerParens, innerParens] none).root := by
  have hwraps : plainBinding.Wraps wrappedBinding plainBinding.root wrappedBinding.root := by
    refine .node rfl rfl (.keep (.node rfl rfl ?_) rfl (by decide +kernel) .nil)
    refine .keep (.node rfl rfl .nil) rfl (by decide +kernel) ?_
    refine .keep (.node rfl rfl ?_) rfl (by decide +kernel) .nil
    refine .keep (.node rfl rfl .nil) rfl (by decide +kernel) ?_
    refine .keep (.node rfl rfl .nil) rfl (by decide +kernel) ?_
    exact .wrap [outerParens, innerParens] rfl rfl rfl wraps_arrowToG rfl .nil
  have hplace : plainBinding.root.at? [0, 1] = some plainDeclarator.phrase := rfl
  obtain ⟨-, hplaced, hsame⟩ := bound_functions_in_parentheses plainBinding
  obtain ⟨hsymbols, hfunctions, hedges⟩ := hsame wrappedBinding hwraps
  exact ⟨hwraps, hplace, by decide +kernel, by decide +kernel, hsymbols, hfunctions, hedges,
    hplaced plainDeclarator [0, 1] [outerParens, innerParens] none hplace⟩

end Source

end CodeAtlas
