-- Comments do not count. A source file and the same file without its comments have the same
-- statements, names, functions, calls and imports, as long as comments hold nothing, play no
-- role, and do not stand in front of the expression of a statement.
import CodeAtlas.Project.Dependencies
import CodeAtlas.Project.Imports
import CodeAtlas.Proofs.Calls.FirstOccurrence
import CodeAtlas.Proofs.Project.Files
import Mathlib.Data.List.Find

namespace CodeAtlas

namespace Tree

variable {α : Type}

theorem pruneAll_eq_map (keep : α → Bool) (ts : List (Tree α)) :
    pruneAll keep ts = (ts.filter fun t => keep t.label).map (prune keep) := by
  induction ts with
  | nil => rfl
  | cons t ts ih =>
    unfold pruneAll
    by_cases h : keep t.label = true
    · simp [h, ih]
    · simp [h, ih]

end Tree

namespace Phrase

/-! ## Phrases without comments -/

/-- The phrase is no comment. -/
def stays (p : Phrase) : Bool := !p.isComment

/-- A phrase without the comments in it. All else stays where it is in the text. -/
def uncommented (p : Phrase) : Phrase := p.prune fun t => t.kind ≠ "comment"

/-- Comments hold nothing and play no role. -/
def CommentsBare (p : Phrase) : Prop :=
  ∀ q ∈ p.preorder, isComment q = true → q.children = [] ∧ q.label.role = none

/-- No statement that is an expression starts with a comment. -/
def ExpressionsLead (p : Phrase) : Prop :=
  ∀ q ∈ p.preorder, kind q = "expression_statement" →
    (namedChildren q).head?.any isComment = false

variable {p q : Phrase}

theorem CommentsBare.of_mem (h : p.CommentsBare) (hq : q ∈ p.preorder) : q.CommentsBare :=
  fun u hu => h u (Tree.mem_preorder_trans hu p hq)

theorem CommentsBare.child (h : p.CommentsBare) (hq : q ∈ p.children) : q.CommentsBare :=
  h.of_mem (Tree.mem_preorder_of_mem_children hq)

@[simp] theorem label_uncommented (p : Phrase) : p.uncommented.label = p.label := by
  cases p; rfl

@[simp] theorem kind_uncommented (p : Phrase) : p.uncommented.kind = p.kind := by
  simp [kind]

@[simp] theorem named_uncommented (p : Phrase) : p.uncommented.named = p.named := by
  simp [named]

@[simp] theorem isComment_uncommented (p : Phrase) : p.uncommented.isComment = p.isComment := by
  simp [isComment]

@[simp] theorem isContent_uncommented (p : Phrase) : p.uncommented.isContent = p.isContent := by
  simp [isContent]

@[simp] theorem isDeclaration_uncommented (p : Phrase) :
    p.uncommented.isDeclaration = p.isDeclaration := by
  simp [isDeclaration]

@[simp] theorem isFunctionValue_uncommented (p : Phrase) :
    p.uncommented.isFunctionValue = p.isFunctionValue := by
  simp [isFunctionValue]

theorem pruneAll_comments (ps : List Phrase) :
    Tree.pruneAll (fun t => t.kind ≠ "comment") ps =
      (ps.filter stays).map uncommented := by
  rw [Tree.pruneAll_eq_map]
  congr 1
  refine List.filter_congr fun c _ => ?_
  by_cases h : c.label.kind = "comment" <;> simp [stays, isComment, kind, h]

theorem children_uncommented (p : Phrase) :
    p.uncommented.children = (p.children.filter stays).map uncommented := by
  obtain ⟨t, ps⟩ := p
  exact pruneAll_comments ps

theorem contents_uncommented (p : Phrase) :
    p.uncommented.contents = p.contents.map uncommented := by
  unfold contents
  rw [children_uncommented, List.filter_map, List.filter_filter]
  congr 1
  refine List.filter_congr fun c _ => ?_
  cases h : c.isComment <;> simp [stays, isContent, h]

theorem namedChildren_uncommented (p : Phrase) :
    p.uncommented.namedChildren =
      (p.namedChildren.filter stays).map uncommented := by
  unfold namedChildren
  rw [children_uncommented, List.filter_map, List.filter_filter, List.filter_filter]
  congr 1
  refine List.filter_congr fun c _ => ?_
  simp [Bool.and_comm]

theorem hasChild_uncommented (p : Phrase) {kind : String} (hkind : kind ≠ "comment") :
    p.uncommented.hasChild kind = p.hasChild kind := by
  unfold hasChild
  rw [children_uncommented, List.any_map, List.any_filter]
  congr 1
  funext c
  by_cases h : c.kind = kind
  · simp [stays, isComment, h, hkind]
  · simp [h]

/-- No role is played by a comment, so that who plays it stays. -/
theorem child?_uncommented (h : p.CommentsBare) (role : Role) :
    p.uncommented.child? role = (p.child? role).map uncommented := by
  unfold child?
  rw [children_uncommented, List.find?_map, List.find?_filter]
  congr 1
  refine List.find?_congr fun c hc => ?_
  cases hcomment : c.isComment with
  | false => simp [stays, hcomment]
  | true =>
    have hrole := (h c (Tree.mem_preorder_of_mem_children hc) hcomment).2
    simp [hrole]

mutual

theorem preorder_uncommented : (p : Phrase) → p.CommentsBare → p.isComment = false →
    p.uncommented.preorder = (p.preorder.filter stays).map uncommented
  | .node t ps, h, hp => by
    have hps := preorderAll_uncommented ps fun c hc => h.child hc
    rw [Tree.preorder, List.filter_cons_of_pos (by simp [stays, hp]), List.map_cons, ← hps]
    rw [← pruneAll_comments]
    rfl

theorem preorderAll_uncommented : (ps : List Phrase) → (∀ p ∈ ps, CommentsBare p) →
    Tree.preorderAll ((ps.filter stays).map uncommented) =
      ((Tree.preorderAll ps).filter stays).map uncommented
  | [], _ => rfl
  | p :: ps, h => by
    have hps := preorderAll_uncommented ps fun c hc => h c (List.mem_cons_of_mem _ hc)
    have hp := h p List.mem_cons_self
    rw [Tree.preorderAll, List.filter_append, List.map_append, ← hps]
    cases hcomment : p.isComment with
    | false =>
      rw [List.filter_cons_of_pos (by simp [stays, hcomment]), List.map_cons, Tree.preorderAll,
        preorder_uncommented p hp hcomment]
    | true =>
      -- a comment holds nothing, so that nothing else goes with it
      obtain ⟨t, cs⟩ := p
      have hcs : cs = [] := (hp _ (Tree.self_mem_preorder _) hcomment).1
      subst hcs
      rw [List.filter_cons_of_neg (by simp [stays, hcomment])]
      simp [Tree.preorder, Tree.preorderAll, stays, hcomment]

end

/-! ## Functions -/

theorem any_isContent_uncommented (ps : List Phrase) :
    ((ps.filter stays).map uncommented).any isContent = ps.any isContent := by
  rw [List.any_map, List.any_filter]
  congr 1
  funext c
  cases h : c.isComment <;> simp [stays, isContent, h]

mutual

/-- Comments between parentheses do not keep them from being taken off. -/
theorem unwrap_uncommented : (p : Phrase) → p.uncommented.unwrap = p.unwrap.uncommented
  | .node t ps => by
    have hps := unwrapOnly_uncommented ps
    rw [← pruneAll_comments] at hps
    show unwrap (.node t (Tree.pruneAll _ ps)) = _
    unfold unwrap
    rw [hps]
    split
    · cases unwrapOnly ps <;> rfl
    · rfl

theorem unwrapOnly_uncommented : (ps : List Phrase) →
    unwrapOnly ((ps.filter stays).map uncommented) =
      (unwrapOnly ps).map uncommented
  | [] => rfl
  | p :: ps => by
    have hps := unwrapOnly_uncommented ps
    cases hcomment : p.isComment with
    | true =>
      rw [List.filter_cons_of_neg (by simp [stays, hcomment]), hps]
      simp [unwrapOnly, isContent, hcomment]
    | false =>
      rw [List.filter_cons_of_pos (by simp [stays, hcomment]), List.map_cons, unwrapOnly,
        unwrapOnly, any_isContent_uncommented, hps, isContent_uncommented, unwrap_uncommented p]
      split
      · split <;> rfl
      · rfl

end

mutual

theorem unwrap_mem_preorder : (p : Phrase) → p.unwrap ∈ p.preorder
  | .node t ps => by
    unfold unwrap
    split
    · cases h : unwrapOnly ps with
      | none => exact Tree.self_mem_preorder _
      | some q => exact List.mem_cons_of_mem _ (unwrapOnly_mem_preorderAll ps h)
    · exact Tree.self_mem_preorder _

theorem unwrapOnly_mem_preorderAll {q : Phrase} : (ps : List Phrase) → unwrapOnly ps = some q →
    q ∈ Tree.preorderAll ps
  | [], h => by cases h
  | p :: ps, h => by
    unfold unwrapOnly at h
    unfold Tree.preorderAll
    split at h
    · split at h
      · cases h
      · cases h
        exact List.mem_append_left _ (unwrap_mem_preorder p)
    · exact List.mem_append_right _ (unwrapOnly_mem_preorderAll ps h)

end

theorem bound?_uncommented (h : p.CommentsBare) :
    p.uncommented.bound? = p.bound?.map fun x => (x.1.uncommented, x.2.uncommented) := by
  unfold bound?
  rw [child?_uncommented h, child?_uncommented h]
  cases p.child? .name with
  | none => rfl
  | some name =>
    cases p.child? .value with
    | none => rfl
    | some value =>
      simp only [Option.map_some, unwrap_uncommented, kind_uncommented,
        isFunctionValue_uncommented]
      split <;> rfl

theorem defaultFunction?_uncommented (h : p.CommentsBare) :
    p.uncommented.defaultFunction? = p.defaultFunction?.map uncommented := by
  unfold defaultFunction?
  rw [kind_uncommented, hasChild_uncommented p (by decide), child?_uncommented h]
  split
  · cases p.child? .value with
    | none => rfl
    | some value =>
      simp only [Option.map_some, Option.filter_some, kind_uncommented]
      split <;> rfl
  · rfl

theorem kind_of_isComment (h : p.isComment = true) : p.kind = "comment" := by
  simpa [isComment] using h

theorem mem_preorder_of_child? {c : Phrase} {role : Role} (h : p.child? role = some c) :
    c ∈ p.preorder :=
  Tree.mem_preorder_of_mem_children (List.mem_of_find?_eq_some h)

theorem mem_preorder_of_bound? {name value : Phrase} (h : p.bound? = some (name, value)) :
    value ∈ p.preorder := by
  unfold bound? at h
  cases hname : p.child? .name with
  | none => simp [hname] at h
  | some name' =>
    cases hvalue : p.child? .value with
    | none => simp [hname, hvalue] at h
    | some value' =>
      simp only [hname, hvalue] at h
      split at h
      · cases h
        exact Tree.mem_preorder_trans value'.unwrap_mem_preorder p (mem_preorder_of_child? hvalue)
      · cases h

theorem mem_preorder_of_defaultFunction? {value : Phrase} (h : p.defaultFunction? = some value) :
    value ∈ p.preorder := by
  unfold defaultFunction? at h
  split at h
  · exact mem_preorder_of_child? (Option.filter_eq_some_iff.1 h).1
  · cases h

end Phrase

/-! ## Source files without comments -/

def NamedFunction.uncommented (f : NamedFunction) : NamedFunction := ⟨f.name, f.phrase.uncommented⟩

def CallSite.uncommented (site : CallSite) : CallSite :=
  { site with phrase := site.phrase.uncommented }

namespace Source

open Phrase (CommentsBare ExpressionsLead stays)

/-- The same bytes, with the phrase that covers them taken without comments. -/
def uncommented (s : Source) : Source := { s with root := s.root.uncommented }

variable {s : Source} {p : Phrase}

@[simp] theorem textOf_uncommented (s : Source) (p : Phrase) :
    s.uncommented.textOf p.uncommented = s.textOf p := by
  simp [textOf, uncommented]

@[simp] theorem locationOf_uncommented (s : Source) (p : Phrase) :
    s.uncommented.locationOf p.uncommented = s.locationOf p := by
  simp [locationOf, uncommented]

theorem unquoted_uncommented (s : Source) (p : Phrase) :
    s.uncommented.unquoted p.uncommented = s.unquoted p := by
  simp [unquoted]

theorem body_uncommented (s : Source) : s.uncommented.body = s.body.map Phrase.uncommented :=
  Phrase.contents_uncommented s.root

/-- What comments add nothing to is the same without them. -/
theorem flatMap_uncommented {β : Type} {f f' : Phrase → List β} {ps : List Phrase}
    (hcomment : ∀ q : Phrase, q.isComment = true → f q = [])
    (hsame : ∀ q ∈ ps, f' q.uncommented = f q) :
    ((ps.filter stays).map Phrase.uncommented).flatMap f' = ps.flatMap f := by
  induction ps with
  | nil => rfl
  | cons p ps ih =>
    obtain ⟨hp, hps⟩ := List.forall_mem_cons.1 hsame
    cases h : p.isComment with
    | true =>
      rw [List.filter_cons_of_neg (by simp [stays, h]), ih hps, List.flatMap_cons, hcomment p h]
      rfl
    | false =>
      rw [List.filter_cons_of_pos (by simp [stays, h]), List.map_cons, List.flatMap_cons, ih hps,
        hp, List.flatMap_cons]

theorem flatMap_walk_uncommented {β : Type} {f f' : Phrase → List β} (h : p.CommentsBare)
    (hcomment : ∀ q : Phrase, q.isComment = true → f q = [])
    (hsame : ∀ q : Phrase, q.CommentsBare → f' q.uncommented = f q) :
    p.uncommented.walk.flatMap f' = p.walk.flatMap f := by
  rw [Tree.walk_eq_preorder, Tree.walk_eq_preorder]
  cases hp : p.isComment with
  | false =>
    rw [Phrase.preorder_uncommented p h hp]
    exact flatMap_uncommented hcomment fun q hq => hsame q (h.of_mem hq)
  | true =>
    -- a comment by itself is not taken away, but then it is all there is
    obtain ⟨t, ps⟩ := p
    have hps : ps = [] := (h _ (Tree.self_mem_preorder _) hp).1
    subst hps
    have hself : f' (.node t []) = f (.node t []) := hsame _ h
    simpa [Phrase.uncommented, Tree.prune, Tree.pruneAll, Tree.preorder, Tree.preorderAll]
      using hself

theorem filterMap_walk_uncommented {β : Type} {f f' : Phrase → Option β} {g : β → β}
    (h : p.CommentsBare) (hcomment : ∀ q : Phrase, q.isComment = true → f q = none)
    (hsame : ∀ q : Phrase, q.CommentsBare → f' q.uncommented = (f q).map g) :
    p.uncommented.walk.filterMap f' = (p.walk.filterMap f).map g := by
  rw [List.filterMap_eq_flatMap_toList, List.filterMap_eq_flatMap_toList, List.map_flatMap]
  refine flatMap_walk_uncommented h ?_ ?_
  · intro q hq
    simp [hcomment q hq]
  · intro q hq
    rw [hsame q hq]
    cases f q <;> rfl

/-! ## Functions and calls -/

theorem function?_uncommented (s : Source) (h : p.CommentsBare) :
    s.uncommented.function? p.uncommented = (s.function? p).map NamedFunction.uncommented := by
  unfold function?
  rw [Phrase.isDeclaration_uncommented, Phrase.kind_uncommented, Phrase.bound?_uncommented h,
    Phrase.defaultFunction?_uncommented h, Phrase.child?_uncommented h]
  split
  · simp [NamedFunction.uncommented, Function.comp_def]
  · split
    · cases p.bound? <;> simp [NamedFunction.uncommented]
    · cases p.defaultFunction? <;> simp [NamedFunction.uncommented]

theorem function?_comment (s : Source) (h : p.isComment = true) : s.function? p = none := by
  simp [function?, Phrase.isDeclaration, Phrase.defaultFunction?, Phrase.kind_of_isComment h]

theorem functionName?_uncommented (s : Source) (h : p.CommentsBare) :
    s.uncommented.functionName? p.uncommented = s.functionName? p := by
  unfold functionName?
  rw [Phrase.isDeclaration_uncommented, Phrase.kind_uncommented, Phrase.bound?_uncommented h,
    Phrase.child?_uncommented h]
  split
  · simp [Function.comp_def]
  · split
    · cases p.bound? <;> simp
    · rfl

theorem functionName?_comment (s : Source) (h : p.isComment = true) : s.functionName? p = none := by
  simp [functionName?, Phrase.isDeclaration, Phrase.kind_of_isComment h]

theorem namedFunctions_uncommented (h : s.root.CommentsBare) :
    s.uncommented.namedFunctions = s.namedFunctions.map NamedFunction.uncommented :=
  filterMap_walk_uncommented h (fun _ => s.function?_comment)
    fun _ => s.function?_uncommented

/-- The phrase of a function lies in the phrase that brings it in. -/
theorem mem_preorder_of_function? {f : NamedFunction} (h : s.function? p = some f) :
    f.phrase ∈ p.preorder := by
  unfold function? at h
  split at h
  · cases h
    exact Tree.self_mem_preorder p
  · split at h
    · obtain ⟨⟨name, value⟩, hbound, rfl⟩ := Option.map_eq_some_iff.1 h
      exact Phrase.mem_preorder_of_bound? hbound
    · obtain ⟨value, hdefault, rfl⟩ := Option.map_eq_some_iff.1 h
      exact Phrase.mem_preorder_of_defaultFunction? hdefault

theorem memberName?_uncommented (s : Source) (h : p.CommentsBare) :
    s.uncommented.memberName? p.uncommented = s.memberName? p := by
  unfold memberName?
  rw [Phrase.hasChild_uncommented p (by decide), Phrase.child?_uncommented h,
    Phrase.child?_uncommented h]
  cases p.child? .object with
  | none => rfl
  | some object =>
    cases p.child? .property with
    | none => rfl
    | some property => simp

theorem calleeName?_uncommented (s : Source) (h : p.CommentsBare) :
    s.uncommented.calleeName? p.uncommented = s.calleeName? p := by
  unfold calleeName?
  rw [Phrase.hasChild_uncommented p (by decide), Phrase.child?_uncommented h,
    Phrase.child?_uncommented h]
  cases hcallee : p.child? .function with
  | none => simp [Option.any_map]
  | some callee =>
    have hbare : callee.CommentsBare := h.child (List.mem_of_find?_eq_some hcallee)
    simp [memberName?_uncommented s hbare, Option.any_map]

/-- A function calls the same from the same places. -/
theorem callSitesIn_uncommented (s : Source) {f : NamedFunction} (h : f.phrase.CommentsBare) :
    s.uncommented.callSitesIn f.uncommented = (s.callSitesIn f).map CallSite.uncommented := by
  rw [callSitesIn_eq, callSitesIn_eq, ← Tree.walk_eq_preorder, ← Tree.walk_eq_preorder]
  refine filterMap_walk_uncommented h ?_ ?_
  · intro q hq
    simp [followed?, Phrase.isCall, Phrase.kind_of_isComment hq]
  · intro q hq
    have hcall : q.uncommented.isCall = q.isCall := by simp [Phrase.isCall]
    unfold followed? target?
    rw [hcall, calleeName?_uncommented s hq]
    split
    · simp [Function.comp_def, CallSite.uncommented, NamedFunction.uncommented,
        NamedFunction.caller]
    · rfl

theorem callSites_uncommented (h : s.root.CommentsBare) :
    s.uncommented.callSites = s.callSites.map CallSite.uncommented := by
  unfold callSites
  rw [namedFunctions_uncommented h, List.flatMap_map, List.map_flatMap]
  refine List.flatMap_congr fun f hf => ?_
  obtain ⟨p, hp, hfunction⟩ := List.mem_filterMap.1 hf
  rw [Tree.walk_eq_preorder] at hp
  exact callSitesIn_uncommented s ((h.of_mem hp).of_mem (mem_preorder_of_function? hfunction))

/-! ## Names -/

theorem specifierName?_uncommented (s : Source) (h : p.CommentsBare) :
    s.uncommented.specifierName? p.uncommented = s.specifierName? p := by
  unfold specifierName?
  rw [Phrase.child?_uncommented h, Phrase.child?_uncommented h, ← Option.map_or]
  cases (p.child? .alias).or (p.child? .name) with
  | none => rfl
  | some name =>
    simp only [Option.map_some, Option.filter_some, Phrase.kind_uncommented]
    split <;> simp

theorem clauseNames_uncommented (s : Source) (h : p.CommentsBare) :
    s.uncommented.clauseNames p.uncommented = s.clauseNames p := by
  unfold clauseNames
  rw [Phrase.kind_uncommented, textOf_uncommented]
  split
  · rfl
  · split
    · rw [Phrase.namedChildren_uncommented, List.filter_map, List.filterMap_map, List.filter_filter,
        List.filterMap_filter, List.filterMap_filter]
      refine List.filterMap_congr fun c hc => ?_
      have hbare : c.CommentsBare := h.child (List.mem_filter.1 hc).1
      by_cases hkind : c.kind = "import_specifier"
      · simp [stays, Phrase.isComment, hkind, specifierName?_uncommented s hbare]
      · simp [hkind]
    · rfl

theorem clauseNames_comment (s : Source) (h : p.isComment = true) : s.clauseNames p = [] := by
  simp [clauseNames, Phrase.kind_of_isComment h]

/-- The names that a clause binds are those that its parts bind. -/
theorem flatMap_clauseNames_uncommented (s : Source) (h : p.CommentsBare) :
    p.uncommented.children.flatMap s.uncommented.clauseNames =
      p.children.flatMap s.clauseNames := by
  rw [Phrase.children_uncommented]
  refine flatMap_uncommented (fun _ => s.clauseNames_comment) fun c hc => ?_
  exact clauseNames_uncommented s (h.child hc)

theorem bindings_uncommented (s : Source) (h : p.CommentsBare) :
    s.uncommented.bindings p.uncommented = s.bindings p := by
  have hclauses : (p.uncommented.children.filter fun c : Phrase => c.kind = "import_clause") =
      (p.children.filter fun c : Phrase => c.kind = "import_clause").map Phrase.uncommented := by
    rw [Phrase.children_uncommented, List.filter_map, List.filter_filter]
    congr 1
    refine List.filter_congr fun c _ => ?_
    by_cases hkind : c.kind = "import_clause"
    · simp [stays, Phrase.isComment, hkind]
    · simp [hkind]
  have hnames : ((p.children.filter fun c : Phrase => c.kind = "import_clause").flatMap
      fun clause => clause.uncommented.children.flatMap s.uncommented.clauseNames) =
      (p.children.filter fun c : Phrase => c.kind = "import_clause").flatMap
        fun clause => clause.children.flatMap s.clauseNames :=
    List.flatMap_congr fun clause hclause =>
      flatMap_clauseNames_uncommented s (h.child (List.mem_filter.1 hclause).1)
  unfold bindings
  rw [Phrase.child?_uncommented h]
  cases p.child? .source with
  | none => rfl
  | some source =>
    simp only [Option.map_some]
    rw [hclauses, List.flatMap_map, hnames, unquoted_uncommented]

theorem bindingsAt_uncommented (s : Source) (h : p.CommentsBare) :
    s.uncommented.bindingsAt p.uncommented = s.bindingsAt p := by
  unfold bindingsAt
  rw [Phrase.kind_uncommented, bindings_uncommented s h]

theorem symbols_uncommented (h : s.root.CommentsBare) :
    s.uncommented.symbols = s.symbols := by
  have hfunctions : s.uncommented.root.walk.filterMap s.uncommented.functionName? =
      (s.root.walk.filterMap s.functionName?).map id := by
    refine filterMap_walk_uncommented h (fun _ => s.functionName?_comment) fun q hq => ?_
    rw [functionName?_uncommented s hq, Option.map_id]
    rfl
  have himports : s.uncommented.root.walk.flatMap s.uncommented.bindingsAt =
      s.root.walk.flatMap s.bindingsAt := by
    refine flatMap_walk_uncommented h ?_ fun _ => s.bindingsAt_uncommented
    intro q hq
    simp [bindingsAt, Phrase.kind_of_isComment hq]
  unfold symbols
  rw [hfunctions, himports, List.map_id]

theorem callEdges_uncommented (h : s.root.CommentsBare) :
    s.uncommented.callEdges = s.callEdges := by
  unfold callEdges firsts
  rw [callSites_uncommented h, symbols_uncommented h, ← map_firstsFrom, List.map_map]
  refine List.map_congr_left fun site _ => ?_
  simp [edgeOf, CallSite.uncommented]

/-! ## The top level -/

theorem bare_of_mem_body (h : s.root.CommentsBare) (hp : p ∈ s.body) : p.CommentsBare :=
  h.child (List.mem_filter.1 hp).1

theorem specifiers_uncommented (h : s.root.CommentsBare) :
    s.uncommented.specifiers = s.specifiers := by
  unfold specifiers
  dsimp only
  rw [body_uncommented, List.filterMap_map]
  congr 1
  rw [List.map_filterMap, List.map_filterMap]
  refine List.filterMap_congr fun p hp => ?_
  simp only [Function.comp_apply, Phrase.kind_uncommented,
    Phrase.child?_uncommented (bare_of_mem_body h hp)]
  split
  · cases p.child? .source with
    | none => rfl
    | some source =>
      simp only [Option.map_some, Option.filter_some, Phrase.kind_uncommented]
      split
      · simp [unquoted_uncommented]
      · rfl
  · rfl

theorem topLevelFunctions_uncommented (h : s.root.CommentsBare) :
    s.uncommented.topLevelFunctions = s.topLevelFunctions := by
  unfold topLevelFunctions
  rw [body_uncommented, List.filter_map, List.filterMap_map]
  have hdeclares : (Phrase.isDeclaration ∘ Phrase.uncommented) = Phrase.isDeclaration := by
    funext p
    simp
  rw [hdeclares]
  refine List.filterMap_congr fun p hp => ?_
  rw [Function.comp_apply, Phrase.child?_uncommented (bare_of_mem_body h (List.mem_filter.1 hp).1)]
  simp [Function.comp_def]

/-- The first expression of a statement is still the first one. -/
theorem statementCallee?_uncommented (h : p.CommentsBare)
    (hlead : p.kind = "expression_statement" → p.namedChildren.head?.any Phrase.isComment = false) :
    statementCallee? p.uncommented = (statementCallee? p).map Phrase.uncommented := by
  unfold statementCallee?
  rw [Phrase.kind_uncommented, Phrase.namedChildren_uncommented]
  split
  · rename_i hkind
    cases hnamed : p.namedChildren with
    | nil => rfl
    | cons first rest =>
      have hfirst : first.isComment = false := by simpa [hnamed] using hlead hkind
      have hmem : first ∈ p.namedChildren := by rw [hnamed]; exact List.mem_cons_self
      have hbare : first.CommentsBare := h.child (List.mem_filter.1 hmem).1
      rw [List.filter_cons_of_pos (by simp [stays, hfirst]), List.map_cons]
      simp only [Phrase.kind_uncommented, Phrase.child?_uncommented hbare]
      split
      · cases first.child? .function with
        | none => rfl
        | some callee =>
          simp only [Option.map_some, Option.filter_some, Phrase.kind_uncommented]
          split <;> rfl
      · rfl
  · rfl

theorem topLevelCalls_uncommented (h : s.root.CommentsBare) (hlead : s.root.ExpressionsLead) :
    s.uncommented.topLevelCalls = s.topLevelCalls := by
  unfold topLevelCalls
  rw [body_uncommented, List.filterMap_map, List.map_filterMap, List.map_filterMap]
  refine List.filterMap_congr fun p hp => ?_
  have hmem : p ∈ s.root.preorder :=
    Tree.mem_preorder_of_mem_children (List.mem_filter.1 hp).1
  rw [Function.comp_apply, statementCallee?_uncommented (h.of_mem hmem) (hlead p hmem)]
  simp [Function.comp_def]

theorem functionIndex_uncommented (h : s.root.CommentsBare) (before after : List Node) (n : Node) :
    functionIndex (before ++ { n with source := some s.uncommented } :: after) =
      functionIndex (before ++ { n with source := some s } :: after) := by
  unfold functionIndex
  rw [List.flatMap_append, List.flatMap_append, List.flatMap_cons, List.flatMap_cons]
  simp [Node.declarations, topLevelFunctions_uncommented h]

/-- Comments never influence what is found out about a file: its statements and functions are the
same phrases without their comments, and all else that is read off it is the same. -/
theorem analysis_ignores_comments (s : Source) (hbare : s.root.CommentsBare)
    (hlead : s.root.ExpressionsLead) :
    s.uncommented.body = s.body.map Phrase.uncommented ∧
      s.uncommented.specifiers = s.specifiers ∧
      s.uncommented.symbols.functions = s.symbols.functions ∧
      s.uncommented.symbols.imports = s.symbols.imports ∧
      s.uncommented.namedFunctions = s.namedFunctions.map NamedFunction.uncommented ∧
      s.uncommented.callEdges = s.callEdges ∧
      (∀ (before after : List Node) (n : Node),
        functionIndex (before ++ { n with source := some s.uncommented } :: after) =
          functionIndex (before ++ { n with source := some s } :: after)) ∧
      s.uncommented.topLevelCalls = s.topLevelCalls := by
  have hsymbols := symbols_uncommented hbare
  refine ⟨s.body_uncommented, specifiers_uncommented hbare, ?_, ?_,
    namedFunctions_uncommented hbare, callEdges_uncommented hbare, ?_,
    topLevelCalls_uncommented hbare hlead⟩
  · rw [hsymbols]
  · rw [hsymbols]
  · exact functionIndex_uncommented hbare

/-- An import, a bound function in parentheses and a call, each with a comment in it. -/
def remarkRows : List (Tree.Row Token) :=
  [⟨0, "program", 0, ⟨0, 0⟩, 64, true, false, false, false, none⟩,
    ⟨1, "import_statement", 0, ⟨0, 0⟩, 27, true, false, false, false, none⟩,
    ⟨2, "import", 0, ⟨0, 0⟩, 6, false, false, false, false, none⟩,
    ⟨2, "comment", 7, ⟨0, 7⟩, 12, true, false, false, false, none⟩,
    ⟨2, "import_clause", 13, ⟨0, 13⟩, 16, true, false, false, false, none⟩,
    ⟨3, "named_imports", 13, ⟨0, 13⟩, 16, true, false, false, false, none⟩,
    ⟨4, "\x7b", 13, ⟨0, 13⟩, 14, false, false, false, false, none⟩,
    ⟨4, "import_specifier", 14, ⟨0, 14⟩, 15, true, false, false, false, none⟩,
    ⟨5, "identifier", 14, ⟨0, 14⟩, 15, true, false, false, false, some .name⟩,
    ⟨4, "\x7d", 15, ⟨0, 15⟩, 16, false, false, false, false, none⟩,
    ⟨2, "from", 17, ⟨0, 17⟩, 21, false, false, false, false, none⟩,
    ⟨2, "string", 22, ⟨0, 22⟩, 27, true, false, false, false, some .source⟩,
    ⟨1, "lexical_declaration", 28, ⟨1, 0⟩, 55, true, false, false, false, none⟩,
    ⟨2, "const", 28, ⟨1, 0⟩, 33, false, false, false, false, none⟩,
    ⟨2, "variable_declarator", 34, ⟨1, 6⟩, 55, true, false, false, false, none⟩,
    ⟨3, "identifier", 34, ⟨1, 6⟩, 35, true, false, false, false, some .name⟩,
    ⟨3, "=", 36, ⟨1, 8⟩, 37, false, false, false, false, none⟩,
    ⟨3, "parenthesized_expression", 38, ⟨1, 10⟩, 55, true, false, false, false, some .value⟩,
    ⟨4, "(", 38, ⟨1, 10⟩, 39, false, false, false, false, none⟩,
    ⟨4, "comment", 39, ⟨1, 11⟩, 44, true, false, false, false, none⟩,
    ⟨4, "arrow_function", 45, ⟨1, 17⟩, 54, true, false, false, false, none⟩,
    ⟨5, "formal_parameters", 45, ⟨1, 17⟩, 47, true, false, false, false, none⟩,
    ⟨6, "(", 45, ⟨1, 17⟩, 46, false, false, false, false, none⟩,
    ⟨6, ")", 46, ⟨1, 18⟩, 47, false, false, false, false, none⟩,
    ⟨5, "=>", 48, ⟨1, 20⟩, 50, false, false, false, false, none⟩,
    ⟨5, "call_expression", 51, ⟨1, 23⟩, 54, true, false, false, false, none⟩,
    ⟨6, "identifier", 51, ⟨1, 23⟩, 52, true, false, false, false, some .function⟩,
    ⟨6, "arguments", 52, ⟨1, 24⟩, 54, true, false, false, false, some .arguments⟩,
    ⟨7, "(", 52, ⟨1, 24⟩, 53, false, false, false, false, none⟩,
    ⟨7, ")", 53, ⟨1, 25⟩, 54, false, false, false, false, none⟩,
    ⟨4, ")", 54, ⟨1, 26⟩, 55, false, false, false, false, none⟩,
    ⟨1, "expression_statement", 56, ⟨2, 0⟩, 64, true, false, false, false, none⟩,
    ⟨2, "call_expression", 56, ⟨2, 0⟩, 64, true, false, false, false, none⟩,
    ⟨3, "identifier", 56, ⟨2, 0⟩, 57, true, false, false, false, some .function⟩,
    ⟨3, "arguments", 57, ⟨2, 1⟩, 64, true, false, false, false, some .arguments⟩,
    ⟨4, "(", 57, ⟨2, 1⟩, 58, false, false, false, false, none⟩,
    ⟨4, "comment", 58, ⟨2, 2⟩, 63, true, false, false, false, none⟩,
    ⟨4, ")", 63, ⟨2, 7⟩, 64, false, false, false, false, none⟩]

def remarks : Source where
  dialect := .typescript
  bytes :=
    Utf8.encode "import /*a*/ \x7bf\x7d from './m'\nconst g = (/*b*/ () => f())\ng(/*c*/)".toList
  root := (Tree.ofRows? remarkRows).getD
    (.node ⟨"program", 0, ⟨0, 0⟩, 0, true, false, false, false, none⟩ [])

theorem analysis_ignores_comments_remarks :
    remarks.root.CommentsBare ∧ remarks.root.ExpressionsLead ∧
      remarks.root.preorder.length = 38 ∧ remarks.uncommented.root.preorder.length = 35 ∧
      remarks.callEdges = [⟨"g", "f", ⟨2, 23⟩, .imported "./m"⟩] ∧
      remarks.uncommented.callEdges = remarks.callEdges ∧
      remarks.topLevelCalls = ["g"] ∧
      remarks.uncommented.topLevelCalls = remarks.topLevelCalls := by
  have hbare : remarks.root.CommentsBare := by
    unfold Phrase.CommentsBare
    decide +kernel
  have hlead : remarks.root.ExpressionsLead := by
    unfold Phrase.ExpressionsLead
    decide +kernel
  obtain ⟨-, -, -, -, -, hedges, -, hcalls⟩ := analysis_ignores_comments remarks hbare hlead
  refine ⟨hbare, hlead, ?_, ?_, ?_, hedges, ?_, hcalls⟩
  · decide +kernel
  · decide +kernel
  · decide +kernel
  · decide +kernel

end Source

end CodeAtlas
