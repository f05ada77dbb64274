-- Redundant parentheses in source files: what it means that a file is another one with parentheses
-- put around values of declarators. Parentheses are taken off again when a function is looked for,
-- and add nothing to a walk.
import CodeAtlas.Calls.Function
import CodeAtlas.Proofs.Tree.Walk
import Mathlib.Data.List.Forall2

namespace CodeAtlas

/-- A tree with another one in it at a place. -/
def Tree.putAt {α : Type} (t u : Tree α) : List Nat → Tree α
  | [] => u
  | i :: place => .node t.label (t.children.modify i fun c => c.putAt u place)

/-! ## Parentheses -/

def Phrase.leaf (t : Token) : Phrase := .node t []

/-- What may stand in parentheses beside an expression: a comment, or a word or sign of the
language, none of which is called as a declaration is. -/
def Token.IsPadding (t : Token) : Prop :=
  t.kind = "comment" ∨ t.named = false ∧ (Phrase.leaf t).isDeclaration = false

instance (t : Token) : Decidable t.IsPadding := inferInstanceAs (Decidable (_ ∨ _ ∧ _))

/-- A pair of parentheses, with what stands in it before and after one expression. -/
structure Parens where
  token : Token
  before : List Token
  after : List Token
  kind : token.kind = "parenthesized_expression"
  named : token.named = true
  padding_before : ∀ t ∈ before, t.IsPadding
  padding_after : ∀ t ∈ after, t.IsPadding

/-- An expression in parentheses. -/
def Parens.around (l : Parens) (p : Phrase) : Phrase :=
  .node l.token (l.before.map Phrase.leaf ++ p :: l.after.map Phrase.leaf)

namespace Phrase

/-- An expression in several pairs of parentheses, the outermost first. -/
def wrapped (layers : List Parens) (p : Phrase) : Phrase := layers.foldr Parens.around p

variable {p : Phrase}

theorem isContent_leaf {t : Token} (h : t.IsPadding) : (leaf t).isContent = false := by
  rcases h with h | ⟨h, -⟩
  · simp [isContent, isComment, kind, leaf, Tree.label, h]
  · simp [isContent, named, leaf, Tree.label, h]

theorem any_isContent_padding {ts : List Token} (h : ∀ t ∈ ts, t.IsPadding) :
    (ts.map leaf).any isContent = false := by
  rw [List.any_map, List.any_eq_false]
  intro t ht
  simp [isContent_leaf (h t ht)]

theorem unwrapOnly_padding {ts : List Token} (h : ∀ t ∈ ts, t.IsPadding) (qs : List Phrase) :
    unwrapOnly (ts.map leaf ++ qs) = unwrapOnly qs := by
  induction ts with
  | nil => rfl
  | cons t ts ih =>
    obtain ⟨ht, hts⟩ := List.forall_mem_cons.1 h
    rw [List.map_cons, List.cons_append, unwrapOnly, isContent_leaf ht, ih hts]
    rfl

theorem unwrap_around (l : Parens) (h : p.isContent = true) : (l.around p).unwrap = p.unwrap := by
  have honly : unwrapOnly (l.before.map leaf ++ p :: l.after.map leaf) = some p.unwrap := by
    rw [unwrapOnly_padding l.padding_before, unwrapOnly, if_pos h,
      any_isContent_padding l.padding_after]
    rfl
  unfold Parens.around
  rw [unwrap, if_pos l.kind, honly]
  rfl

theorem isContent_around (l : Parens) (p : Phrase) : (l.around p).isContent = true := by
  simp [isContent, isComment, kind, Phrase.named, Parens.around, Tree.label, l.kind, l.named]

theorem isContent_wrapped (layers : List Parens) (h : p.isContent = true) :
    (p.wrapped layers).isContent = true := by
  cases layers with
  | nil => exact h
  | cons l layers => exact isContent_around l _

/-- All parentheses are taken off, one pair after the other. -/
theorem unwrap_wrapped (layers : List Parens) (h : p.isContent = true) :
    (p.wrapped layers).unwrap = p.unwrap := by
  induction layers with
  | nil => rfl
  | cons l layers ih => exact (unwrap_around l (isContent_wrapped layers h)).trans ih

end Phrase

/-! ## Declarators -/

namespace Phrase

variable {p : Phrase}

/-- The phrase in another role. -/
def withRole (role : Option Role) : Phrase → Phrase
  | .node t ps => .node { t with role := role } ps

/-- The phrase without regard to its role. -/
def unassigned (p : Phrase) : Phrase := p.withRole none

/-- The value of a declarator in parentheses. The outermost ones play its role then. -/
def parenthesized (layers : List Parens) (inner : Option Role) (value : Phrase) : Phrase :=
  ((value.withRole inner).wrapped layers).withRole (some .value)

theorem withRole_withRole (role role' : Option Role) (p : Phrase) :
    (p.withRole role).withRole role' = p.withRole role' := by
  cases p; rfl

theorem isFunctionValue_unassigned (p : Phrase) :
    p.unassigned.isFunctionValue = p.isFunctionValue := by
  cases p; rfl

theorem isContent_withRole (role : Option Role) (p : Phrase) :
    (p.withRole role).isContent = p.isContent := by
  cases p; rfl

theorem role_withRole (role : Option Role) (p : Phrase) : (p.withRole role).label.role = role := by
  cases p; rfl

theorem withRole_role (p : Phrase) : p.withRole p.label.role = p := by
  cases p; rfl

theorem unassigned_unwrap_withRole (role : Option Role) (p : Phrase) :
    (p.withRole role).unwrap.unassigned = p.unwrap.unassigned := by
  obtain ⟨t, ps⟩ := p
  unfold withRole unwrap
  dsimp only
  split
  · cases unwrapOnly ps <;> rfl
  · rfl

/-- Inside all parentheses there is the same phrase. -/
theorem unassigned_unwrap_parenthesized (layers : List Parens) (inner : Option Role)
    (h : p.isContent = true) :
    (p.parenthesized layers inner).unwrap.unassigned = p.unwrap.unassigned := by
  have hinner : (p.withRole inner).isContent = true := by rw [isContent_withRole, h]
  unfold parenthesized
  rw [unassigned_unwrap_withRole, unwrap_wrapped layers hinner, unassigned_unwrap_withRole]

end Phrase

/-- A declarator with a value that can be put in parentheses: one that is more than a word, a sign
or a comment. -/
structure Declarator where
  token : Token
  before : List Phrase
  value : Phrase
  after : List Phrase
  kind : token.kind = "variable_declarator"
  first : ∀ c ∈ before, c.label.role ≠ some .value
  role : value.label.role = some .value
  content : value.isContent = true

namespace Declarator

/-- The declarator as a phrase, with this phrase for its value. -/
def phraseWith (d : Declarator) (value : Phrase) : Phrase :=
  .node d.token (d.before ++ value :: d.after)

def phrase (d : Declarator) : Phrase := d.phraseWith d.value

/-- The declarator with its value in parentheses. -/
def parenthesized (d : Declarator) (layers : List Parens) (inner : Option Role) : Phrase :=
  d.phraseWith (d.value.parenthesized layers inner)

variable {v : Phrase}

theorem child?_value (d : Declarator) (hv : v.label.role = some .value) :
    (d.phraseWith v).child? .value = some v := by
  unfold Phrase.child? phraseWith
  simp only [Tree.children]
  rw [List.find?_append, List.find?_eq_none.2 (by simpa using d.first), List.find?_cons]
  simp [hv]

theorem child?_name (d : Declarator) (hv : v.label.role = some .value) :
    (d.phraseWith v).child? .name =
      (d.before ++ d.after).find? fun c => c.label.role = some .name := by
  unfold Phrase.child? phraseWith
  simp only [Tree.children]
  rw [List.find?_append, List.find?_append, List.find?_cons]
  simp [hv]

/-- Parentheses around the value do not change what the declarator binds. -/
theorem bound?_parenthesized (d : Declarator) (layers : List Parens) (inner : Option Role) :
    (d.parenthesized layers inner).bound?.map (fun x => (x.1, x.2.unassigned)) =
      d.phrase.bound?.map fun x => (x.1, x.2.unassigned) := by
  have hrole : (d.value.parenthesized layers inner).label.role = some .value :=
    Phrase.role_withRole _ _
  have hsame := Phrase.unassigned_unwrap_parenthesized layers inner d.content
  have hfunction : (d.value.parenthesized layers inner).unwrap.isFunctionValue =
      d.value.unwrap.isFunctionValue := by
    rw [← Phrase.isFunctionValue_unassigned, hsame, Phrase.isFunctionValue_unassigned]
  unfold Phrase.bound? parenthesized phrase
  rw [d.child?_value hrole, d.child?_value d.role, d.child?_name hrole, d.child?_name d.role]
  cases (d.before ++ d.after).find? fun c => c.label.role = some .name with
  | none => rfl
  | some name =>
    dsimp only
    rw [hfunction]
    split
    · simp [hsame]
    · rfl

end Declarator

/-! ## Files with more parentheses -/

/-- The text of the part is read when the phrase around it is looked at: identifiers, the module of
an import and the name of a declaration. -/
def Phrase.isSpelled (parent part : Phrase) : Bool :=
  ["identifier", "property_identifier"].contains part.kind
    || (parent.kind = "import_statement" && part.label.role = some .source)
    || (parent.isDeclaration && part.label.role = some .name)

namespace Source

mutual

/-- The second phrase, of the second file, is the first one of the first file, but for parentheses
around values of declarators in it. It may have moved, so long as the parts that are spelled out are
spelled the same. -/
inductive Wraps (s s' : Source) : Phrase → Phrase → Prop
  | node {t t' : Token} {ps ps' : List Phrase} (hkind : t'.kind = t.kind)
      (hnamed : t'.named = t.named) (hparts : WrapsAll s s' (.node t ps) ps ps') :
      Wraps s s' (.node t ps) (.node t' ps')

/-- `Wraps` for parts of a phrase, one by one. -/
inductive WrapsAll (s s' : Source) : Phrase → List Phrase → List Phrase → Prop
  | nil {parent : Phrase} : WrapsAll s s' parent [] []
  | keep {parent p p' : Phrase} {ps ps' : List Phrase} (hwraps : Wraps s s' p p')
      (hrole : p'.label.role = p.label.role)
      (htext : parent.isSpelled p = true → s'.textOf p' = s.textOf p)
      (hrest : WrapsAll s s' parent ps ps') : WrapsAll s s' parent (p :: ps) (p' :: ps')
  | wrap {parent p p' : Phrase} {ps ps' : List Phrase} (layers : List Parens)
      (hdeclarator : parent.kind = "variable_declarator") (hvalue : p.label.role = some .value)
      (hcontent : p.isContent = true) (hwraps : Wraps s s' p p')
      (hrole : (p'.wrapped layers).label.role = some .value)
      (hrest : WrapsAll s s' parent ps ps') :
      WrapsAll s s' parent (p :: ps) (p'.wrapped layers :: ps')

end

/-- A part that is found again as it is. -/
structure Kept (s s' : Source) (parent c c' : Phrase) : Prop where
  wraps : s.Wraps s' c c'
  role : c'.label.role = c.label.role
  text : parent.isSpelled c = true → s'.textOf c' = s.textOf c

/-- The value of a declarator that is found again in parentheses. -/
structure InParens (s s' : Source) (parent c c' : Phrase) : Prop where
  declarator : parent.kind = "variable_declarator"
  value : c.label.role = some .value
  role : c'.label.role = some .value
  content : c.isContent = true
  inside : ∃ layers u, c' = u.wrapped layers ∧ s.Wraps s' c u

variable {s s' : Source} {p p' parent : Phrase}

theorem WrapsAll.forall₂ : {ps ps' : List Phrase} → WrapsAll s s' parent ps ps' →
    List.Forall₂ (fun c c' => s.Kept s' parent c c' ∨ s.InParens s' parent c c') ps ps'
  | [], _, .nil => .nil
  | _ :: _, _, .keep hwraps hrole htext hrest => .cons (Or.inl ⟨hwraps, hrole, htext⟩) hrest.forall₂
  | _ :: _, _, .wrap layers hdeclarator hvalue hcontent hwraps hrole hrest =>
    .cons (Or.inr ⟨hdeclarator, hvalue, hrole, hcontent, layers, _, rfl, hwraps⟩) hrest.forall₂

namespace Wraps

theorem kind (h : s.Wraps s' p p') : p'.kind = p.kind := by
  obtain ⟨hkind, -, -⟩ := h
  exact hkind

theorem named (h : s.Wraps s' p p') : p'.named = p.named := by
  obtain ⟨-, hnamed, -⟩ := h
  exact hnamed

theorem isDeclaration (h : s.Wraps s' p p') : p'.isDeclaration = p.isDeclaration := by
  simp [Phrase.isDeclaration, h.kind]

theorem isFunctionValue (h : s.Wraps s' p p') : p'.isFunctionValue = p.isFunctionValue := by
  simp [Phrase.isFunctionValue, h.kind, h.named]

theorem isContent (h : s.Wraps s' p p') : p'.isContent = p.isContent := by
  simp [Phrase.isContent, Phrase.isComment, h.kind, h.named]

theorem parts (h : s.Wraps s' p p') :
    List.Forall₂ (fun c c' => s.Kept s' p c c' ∨ s.InParens s' p c c') p.children p'.children := by
  obtain ⟨-, -, hparts⟩ := h
  exact hparts.forall₂

/-- Only declarators have parts in parentheses that were not there before. -/
theorem kept (h : s.Wraps s' p p') (hkind : p.kind ≠ "variable_declarator") :
    List.Forall₂ (s.Kept s' p) p.children p'.children := by
  refine h.parts.imp ?_
  rintro c c' (hkept | hinside)
  · exact hkept
  · exact absurd hinside.declarator hkind

/-- Whatever plays a role plays it again. -/
theorem child?_cases (h : s.Wraps s' p p') (role : Role) :
    (p.child? role = none ∧ p'.child? role = none) ∨
      ∃ c c', p.child? role = some c ∧ p'.child? role = some c' ∧ c.label.role = some role ∧
        (s.Kept s' p c c' ∨ s.InParens s' p c c') := by
  unfold Phrase.child?
  have hparts := h.parts
  generalize p.children = ps at hparts
  generalize p'.children = ps' at hparts
  induction hparts with
  | nil => exact Or.inl ⟨rfl, rfl⟩
  | @cons c c' ps ps' hpart _ ih =>
    have hrole : c'.label.role = c.label.role := by
      rcases hpart with hkept | hinside
      · exact hkept.role
      · rw [hinside.role, hinside.value]
    rw [List.find?_cons, List.find?_cons, hrole]
    by_cases hfound : c.label.role = some role
    · refine Or.inr ⟨c, c', ?_, ?_, hfound, hpart⟩ <;> simp [hfound]
    · simpa [hfound] using ih

/-- It is the same as before unless it is the value of a declarator. -/
theorem child?_kept (h : s.Wraps s' p p') (role : Role)
    (hrole : p.kind ≠ "variable_declarator" ∨ role ≠ .value) :
    (p.child? role = none ∧ p'.child? role = none) ∨
      ∃ c c', p.child? role = some c ∧ p'.child? role = some c' ∧ c.label.role = some role ∧
        s.Kept s' p c c' := by
  rcases h.child?_cases role with hnone | ⟨c, c', hc, hc', hplays, hkept | hinside⟩
  · exact Or.inl hnone
  · exact Or.inr ⟨c, c', hc, hc', hplays, hkept⟩
  · rcases hrole with hkind | hother
    · exact absurd hinside.declarator hkind
    · rw [hinside.value] at hplays
      exact absurd (Option.some.inj hplays).symm hother

theorem hasChild (h : s.Wraps s' p p') (hkind : p.kind ≠ "variable_declarator") (kind : String) :
    p'.hasChild kind = p.hasChild kind := by
  unfold Phrase.hasChild
  have hparts := h.kept hkind
  generalize p.children = ps at hparts
  generalize p'.children = ps' at hparts
  induction hparts with
  | nil => rfl
  | cons hkept _ ih => rw [List.any_cons, List.any_cons, ih, hkept.wraps.kind]

end Wraps

theorem any_isContent_kept {ps ps' : List Phrase} (h : List.Forall₂ (s.Kept s' parent) ps ps') :
    ps'.any Phrase.isContent = ps.any Phrase.isContent := by
  induction h with
  | nil => rfl
  | cons hkept _ ih => rw [List.any_cons, List.any_cons, ih, hkept.wraps.isContent]

/-! ## Parentheses at a place -/

theorem textOf_eq (hbytes : s'.bytes = s.bytes) (hlabel : p'.label = p.label) :
    s'.textOf p' = s.textOf p := by
  unfold textOf
  rw [hbytes, hlabel]

mutual

/-- A phrase is found again where nothing has changed. -/
theorem Wraps.refl (hbytes : s'.bytes = s.bytes) : (p : Phrase) → s.Wraps s' p p
  | .node t ps => .node rfl rfl (WrapsAll.refl hbytes (.node t ps) ps)

theorem WrapsAll.refl (hbytes : s'.bytes = s.bytes) (parent : Phrase) :
    (ps : List Phrase) → s.WrapsAll s' parent ps ps
  | [] => .nil
  | p :: ps =>
    .keep (Wraps.refl hbytes p) rfl (fun _ => textOf_eq hbytes rfl) (WrapsAll.refl hbytes parent ps)

end

theorem Wraps.withRole (h : s.Wraps s' p p') (role : Option Role) :
    s.Wraps s' p (p'.withRole role) := by
  obtain ⟨hkind, hnamed, hparts⟩ := h
  exact .node hkind hnamed hparts

theorem WrapsAll.append {ps ps' qs qs' : List Phrase} (h : s.WrapsAll s' parent ps ps')
    (hrest : s.WrapsAll s' parent qs qs') : s.WrapsAll s' parent (ps ++ qs) (ps' ++ qs') := by
  match h with
  | .nil => exact hrest
  | .keep hwraps hrole htext h => exact .keep hwraps hrole htext (h.append hrest)
  | .wrap layers hdeclarator hvalue hcontent hwraps hrole h =>
    exact .wrap layers hdeclarator hvalue hcontent hwraps hrole (h.append hrest)

/-- The outermost parentheses may play any role. -/
theorem wrapped_withRole (l : Parens) (layers : List Parens) (role : Option Role) (p : Phrase) :
    (p.wrapped (l :: layers)).withRole role =
      p.wrapped (⟨{ l.token with role := role }, l.before, l.after, l.kind, l.named,
        l.padding_before, l.padding_after⟩ :: layers) := rfl

/-- A declarator with its value in parentheses is the declarator. -/
theorem wraps_parenthesized (hbytes : s'.bytes = s.bytes) (d : Declarator) (layers : List Parens)
    (inner : Option Role) : s.Wraps s' d.phrase (d.parenthesized layers inner) := by
  have hvalue := Wraps.refl hbytes d.value
  have hafter := WrapsAll.refl hbytes d.phrase d.after
  refine .node rfl rfl ((WrapsAll.refl hbytes d.phrase d.before).append ?_)
  unfold Phrase.parenthesized
  cases layers with
  | nil =>
    -- without parentheses the value takes its role again
    have hself : ((d.value.withRole inner).wrapped []).withRole (some .value) = d.value := by
      rw [← d.role]
      exact (Phrase.withRole_withRole inner _ d.value).trans d.value.withRole_role
    rw [hself]
    exact .keep hvalue rfl (fun _ => textOf_eq hbytes rfl) hafter
  | cons l layers =>
    rw [wrapped_withRole]
    exact .wrap _ d.kind d.role d.content (hvalue.withRole inner) rfl hafter

theorem WrapsAll.modify (hbytes : s'.bytes = s.bytes) {f : Phrase → Phrase} {ps : List Phrase}
    {i : Nat} {c : Phrase} (hc : ps[i]? = some c) (hwraps : s.Wraps s' c (f c))
    (hlabel : (f c).label = c.label) : s.WrapsAll s' parent ps (ps.modify i f) := by
  induction ps generalizing i with
  | nil => cases hc
  | cons p ps ih =>
    cases i with
    | zero =>
      cases hc
      rw [List.modify_zero_cons]
      exact .keep hwraps (by rw [hlabel]) (fun _ => textOf_eq hbytes hlabel)
        (WrapsAll.refl hbytes parent ps)
    | succ i =>
      rw [List.modify_succ_cons]
      exact .keep (Wraps.refl hbytes p) rfl (fun _ => textOf_eq hbytes rfl) (ih hc)

/-- A phrase is found again when something in it is replaced by what is found there again. -/
theorem Wraps.putAt (hbytes : s'.bytes = s.bytes) {d d' : Phrase} (hd : s.Wraps s' d d')
    (hlabel : d'.label = d.label) {place : List Nat} (h : p.at? place = some d) :
    s.Wraps s' p (p.putAt d' place) ∧ (p.putAt d' place).label = p.label := by
  induction place generalizing p with
  | nil =>
    cases h
    exact ⟨hd, hlabel⟩
  | cons i place ih =>
    obtain ⟨t, ps⟩ := p
    obtain ⟨c, hc, hinside⟩ := Option.bind_eq_some_iff.1 h
    obtain ⟨hwraps, hsame⟩ := ih hinside
    exact ⟨.node rfl rfl (WrapsAll.modify hbytes hc hwraps hsame), rfl⟩

/-- The file with the value of the declarator at a place put in parentheses. All else stays where it
is in the text. -/
def inParens (s : Source) (d : Declarator) (place : List Nat) (layers : List Parens)
    (inner : Option Role) : Source :=
  { s with root := s.root.putAt (d.parenthesized layers inner) place }

/-- A file is found again when the value of a declarator anywhere in it is put in parentheses. -/
theorem wraps_inParens (s : Source) {d : Declarator} {place : List Nat}
    (h : s.root.at? place = some d.phrase) (layers : List Parens) (inner : Option Role) :
    s.Wraps (s.inParens d place layers inner) s.root (s.inParens d place layers inner).root := by
  have hbytes : (s.inParens d place layers inner).bytes = s.bytes := rfl
  have hd := wraps_parenthesized hbytes d layers inner
  exact (hd.putAt hbytes rfl h).1

/-! ## Walks -/

/-- Nothing is found at parentheses, nor at what stands beside the expression in them. -/
structure SkipsParens {β : Type} (f : Phrase → List β) : Prop where
  padding : ∀ t : Token, t.IsPadding → f (.leaf t) = []
  parens : ∀ q : Phrase, q.kind = "parenthesized_expression" → f q = []

section Walks

variable {β β' : Type} {R : β → β' → Prop} {f : Phrase → List β} {f' : Phrase → List β'}

theorem SkipsParens.flatMap_padding (h : SkipsParens f) {ts : List Token}
    (hts : ∀ t ∈ ts, t.IsPadding) : (Tree.preorderAll (ts.map Phrase.leaf)).flatMap f = [] := by
  induction ts with
  | nil => rfl
  | cons t ts ih =>
    obtain ⟨ht, hts⟩ := List.forall_mem_cons.1 hts
    have hleaf : Tree.preorder (Phrase.leaf t) = [Phrase.leaf t] := by
      simp [Phrase.leaf, Tree.preorder, Tree.preorderAll]
    rw [List.map_cons, Tree.preorderAll, hleaf, List.flatMap_append, ih hts, List.flatMap_singleton,
      h.padding t ht]
    rfl

/-- Parentheses add nothing to a walk. -/
theorem SkipsParens.flatMap_wrapped (h : SkipsParens f) (layers : List Parens) (p : Phrase) :
    (Tree.preorder (p.wrapped layers)).flatMap f = p.preorder.flatMap f := by
  induction layers with
  | nil => rfl
  | cons l layers ih =>
    have hlayer : f (l.around (p.wrapped layers)) = [] := h.parens _ l.kind
    show (Tree.preorder (l.around (p.wrapped layers))).flatMap f = _
    unfold Parens.around at hlayer ⊢
    rw [Tree.preorder, List.flatMap_cons, hlayer, Tree.preorderAll_append, Tree.preorderAll,
      List.flatMap_append, List.flatMap_append, h.flatMap_padding l.padding_before,
      h.flatMap_padding l.padding_after, ih]
    simp

mutual

/-- A walk finds the same again, one by one. -/
theorem Wraps.flatMap_preorder (hskips : SkipsParens f')
    (hsame : ∀ q q', s.Wraps s' q q' → List.Forall₂ R (f q) (f' q')) :
    (p : Phrase) → {p' : Phrase} → s.Wraps s' p p' →
      List.Forall₂ R (p.preorder.flatMap f) (p'.preorder.flatMap f')
  | .node t ps, .node t' ps', h => by
    have hnode := hsame _ _ h
    obtain ⟨-, -, hparts⟩ := h
    rw [Tree.preorder, Tree.preorder, List.flatMap_cons, List.flatMap_cons]
    exact List.rel_append hnode (WrapsAll.flatMap_preorderAll hskips hsame ps hparts)

theorem WrapsAll.flatMap_preorderAll (hskips : SkipsParens f')
    (hsame : ∀ q q', s.Wraps s' q q' → List.Forall₂ R (f q) (f' q')) :
    (ps : List Phrase) → {parent : Phrase} → {ps' : List Phrase} → s.WrapsAll s' parent ps ps' →
      List.Forall₂ R ((Tree.preorderAll ps).flatMap f) ((Tree.preorderAll ps').flatMap f')
  | [], _, _, .nil => .nil
  | p :: ps, _, _, .keep hwraps _ _ hrest => by
    rw [Tree.preorderAll, Tree.preorderAll, List.flatMap_append, List.flatMap_append]
    exact List.rel_append (hwraps.flatMap_preorder hskips hsame p)
      (WrapsAll.flatMap_preorderAll hskips hsame ps hrest)
  | p :: ps, _, _, .wrap layers _ _ _ hwraps _ hrest => by
    -- the parentheses are only on one side, where the walk passes them over
    rw [Tree.preorderAll, Tree.preorderAll, List.flatMap_append, List.flatMap_append,
      hskips.flatMap_wrapped layers]
    exact List.rel_append (hwraps.flatMap_preorder hskips hsame p)
      (WrapsAll.flatMap_preorderAll hskips hsame ps hrest)

end

theorem forall₂_toList {x : Option β} {x' : Option β'} (h : Option.Rel R x x') :
    List.Forall₂ R x.toList x'.toList := by
  cases h with
  | none => exact .nil
  | some hR => exact .cons hR .nil

theorem Wraps.filterMap_preorder {g : Phrase → Option β} {g' : Phrase → Option β'}
    (hskips : SkipsParens fun q => (g' q).toList)
    (hsame : ∀ q q', s.Wraps s' q q' → Option.Rel R (g q) (g' q')) (h : s.Wraps s' p p') :
    List.Forall₂ R (p.preorder.filterMap g) (p'.preorder.filterMap g') := by
  rw [List.filterMap_eq_flatMap_toList, List.filterMap_eq_flatMap_toList]
  exact h.flatMap_preorder hskips (fun q q' hwraps => forall₂_toList (hsame q q' hwraps)) p

end Walks

end Source

end CodeAtlas
