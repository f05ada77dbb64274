-- Two readings of a call at the top level of a file. Dependencies count any call of an identifier;
-- call edges give no name to a call that is optional or a tagged template. On all other calls of
-- identifiers the two agree.
import CodeAtlas.Calls.Edge
import CodeAtlas.Project.Dependencies
import CodeAtlas.Proofs.Register
import Mathlib.Data.List.Forall2

namespace CodeAtlas

/-! ## The calls of a file at its top level -/

namespace Phrase

/-- The call that a statement begins with. -/
def statementCall? (statement : Phrase) : Option Phrase :=
  if statement.kind = "expression_statement" then statement.namedChildren.head?.filter isCall
  else none

def isOptionalCall (call : Phrase) : Bool := call.hasChild "optional_chain"

def isTaggedTemplate (call : Phrase) : Bool :=
  (call.child? .arguments).any fun a => a.kind = "template_string"

end Phrase

namespace Source

variable (s : Source)

/-- The name of a call if it calls an identifier. -/
def identifierName? (call : Phrase) : Option String :=
  ((call.child? .function).filter fun callee => callee.kind = "identifier").map s.textOf

/-- The calls that statements at the top level begin with, in order. -/
def statementCalls : List Phrase := s.body.filterMap Phrase.statementCall?

/-- The calls of identifiers among them. -/
def identifierCalls : List Phrase :=
  s.statementCalls.filter fun call => (s.identifierName? call).isSome

theorem map_statementCallee? (statement : Phrase) :
    (statementCallee? statement).map s.textOf =
      statement.statementCall?.bind s.identifierName? := by
  unfold statementCallee? Phrase.statementCall?
  split
  · cases statement.namedChildren with
    | nil => rfl
    | cons first rest =>
      rw [List.head?_cons, Option.filter_some]
      by_cases hcall : first.kind = "call_expression" <;>
        simp [hcall, Phrase.isCall, identifierName?]
  · rfl

/-- The names at the top level are those of the calls of identifiers. -/
theorem topLevelCalls_eq_filterMap :
    s.topLevelCalls = s.statementCalls.filterMap s.identifierName? := by
  unfold topLevelCalls statementCalls
  rw [List.map_filterMap, List.filterMap_filterMap]
  apply List.filterMap_congr
  intro statement _
  exact s.map_statementCallee? statement

/-- A call of an identifier is called so unless it is optional or a tagged template. -/
theorem calleeName?_of_identifierName? {call : Phrase} {name : String}
    (h : s.identifierName? call = some name) :
    s.calleeName? call =
      if call.isOptionalCall || call.isTaggedTemplate then none else some name := by
  obtain ⟨callee, hcallee, rfl⟩ := Option.map_eq_some_iff.1 h
  obtain ⟨hfunction, hkind⟩ := Option.filter_eq_some_iff.1 hcallee
  rw [decide_eq_true_eq] at hkind
  unfold calleeName? Phrase.isOptionalCall Phrase.isTaggedTemplate
  rw [hfunction]
  dsimp only
  rw [if_pos hkind]
  cases call.hasChild "optional_chain" <;> simp

/-- Each name at the top level stands for one call of an identifier. -/
theorem forall₂_identifierCalls :
    List.Forall₂ (fun call name => s.identifierName? call = some name)
      s.identifierCalls s.topLevelCalls := by
  rw [topLevelCalls_eq_filterMap]
  unfold identifierCalls
  induction s.statementCalls with
  | nil => exact .nil
  | cons call rest ih =>
    cases hname : s.identifierName? call with
    | none =>
      rw [List.filter_cons_of_neg (by simp [hname]), List.filterMap_cons_none hname]
      exact ih
    | some name =>
      rw [List.filter_cons_of_pos (by simp [hname]), List.filterMap_cons_some hname]
      exact .cons hname ih

theorem mem_topLevelCalls_iff (name : String) :
    name ∈ s.topLevelCalls ↔ ∃ call ∈ s.identifierCalls, s.identifierName? call = some name := by
  rw [topLevelCalls_eq_filterMap, List.mem_filterMap]
  unfold identifierCalls
  constructor
  · rintro ⟨call, hcall, hname⟩
    exact ⟨call, List.mem_filter.2 ⟨hcall, by rw [hname]; rfl⟩, hname⟩
  · rintro ⟨call, hcall, hname⟩
    exact ⟨call, (List.mem_filter.1 hcall).1, hname⟩

end Source

/-! ## Dependencies -/

/-- The function is declared at the top level of the file. -/
def Node.Declares (n : Node) (name : String) : Prop :=
  ∃ s, n.source = some s ∧ name ∈ s.topLevelFunctions

theorem Node.mem_declarations_iff (n : Node) (name : String) :
    name ∈ n.declarations.map (·.1) ↔ n.Declares name := by
  unfold declarations Declares
  cases n.source with
  | none => simp
  | some s => simp

theorem isSome_functionIndex_iff (files : List Node) (name : String) :
    ((functionIndex files).get? name).isSome = true ↔ ∃ n ∈ files, n.Declares name := by
  unfold functionIndex
  rw [Register.isSome_get?_iff, Register.mem_keys_ofList, List.map_flatMap, List.mem_flatMap]
  simp only [Node.mem_declarations_iff]

/-- A file depends on what its calls of identifiers name, if any file declares it. -/
theorem Dependency.mem_among_iff (roots : List Project) (d : Dependency) :
    d ∈ among roots ↔ ∃ f ∈ parsedFilesOf roots, ∃ s, f.source = some s ∧
      ∃ call ∈ s.identifierCalls, ∃ name, s.identifierName? call = some name ∧
        (∃ g ∈ parsedFilesOf roots, g.Declares name) ∧ d = ⟨name, name, f.path⟩ := by
  unfold among ofFiles
  simp only [List.mem_flatMap, List.mem_map, List.mem_filter, isSome_functionIndex_iff]
  constructor
  · rintro ⟨f, hf, name, ⟨hname, hdeclared⟩, rfl⟩
    unfold Node.topLevelCalls at hname
    cases hsource : f.source with
    | none => simp [hsource] at hname
    | some s =>
      rw [hsource] at hname
      obtain ⟨call, hcall, hcalled⟩ := (s.mem_topLevelCalls_iff name).1 hname
      exact ⟨f, hf, s, hsource, call, hcall, name, hcalled, hdeclared, rfl⟩
  · rintro ⟨f, hf, s, hsource, call, hcall, name, hcalled, hdeclared, rfl⟩
    refine ⟨f, hf, name, ⟨?_, hdeclared⟩, rfl⟩
    unfold Node.topLevelCalls
    rw [hsource]
    exact (s.mem_topLevelCalls_iff name).2 ⟨call, hcall, hcalled⟩

/-- The names at the top level stand, one by one, for the calls of identifiers. As the callee of an
edge such a call is called the same, except that an optional call or a tagged template has no name
there. A dependency does not make this exception: every call of an identifier makes one if some
file declares the name. -/
theorem Source.top_level_calls_against_callee_names (s : Source) (roots : List Project)
    (d : Dependency) :
    List.Forall₂ (fun call name => s.identifierName? call = some name ∧ s.calleeName? call =
        if call.isOptionalCall || call.isTaggedTemplate then none else some name)
      s.identifierCalls s.topLevelCalls ∧
    (d ∈ Dependency.among roots ↔ ∃ f ∈ parsedFilesOf roots, ∃ t, f.source = some t ∧
      ∃ call ∈ t.identifierCalls, ∃ name, t.identifierName? call = some name ∧
        (∃ g ∈ parsedFilesOf roots, g.Declares name) ∧ d = ⟨name, name, f.path⟩) := by
  refine ⟨?_, Dependency.mem_among_iff roots d⟩
  apply s.forall₂_identifierCalls.imp
  intro call name hname
  exact ⟨hname, s.calleeName?_of_identifierName? hname⟩

/-! ## A tagged template and an optional call -/

namespace Source

def shorthandRows : List (Tree.Row Token) :=
  [⟨0, "program", 0, ⟨0, 0⟩, 29, true, false, false, false, none⟩,
    ⟨1, "function_declaration", 0, ⟨0, 0⟩, 15, true, false, false, false, none⟩,
    ⟨2, "function", 0, ⟨0, 0⟩, 8, false, false, false, false, none⟩,
    ⟨2, "identifier", 9, ⟨0, 9⟩, 10, true, false, false, false, some .name⟩,
    ⟨2, "formal_parameters", 10, ⟨0, 10⟩, 12, true, false, false, false, none⟩,
    ⟨3, "(", 10, ⟨0, 10⟩, 11, false, false, false, false, none⟩,
    ⟨3, ")", 11, ⟨0, 11⟩, 12, false, false, false, false, none⟩,
    ⟨2, "statement_block", 13, ⟨0, 13⟩, 15, true, false, false, false, none⟩,
    ⟨3, "\x7b", 13, ⟨0, 13⟩, 14, false, false, false, false, none⟩,
    ⟨3, "\x7d", 14, ⟨0, 14⟩, 15, false, false, false, false, none⟩,
    ⟨1, "expression_statement", 16, ⟨1, 0⟩, 21, true, false, false, false, none⟩,
    ⟨2, "call_expression", 16, ⟨1, 0⟩, 20, true, false, false, false, none⟩,
    ⟨3, "identifier", 16, ⟨1, 0⟩, 17, true, false, false, false, some .function⟩,
    ⟨3, "template_string", 17, ⟨1, 1⟩, 20, true, false, false, false, some .arguments⟩,
    ⟨4, "`", 17, ⟨1, 1⟩, 18, false, false, false, false, none⟩,
    ⟨4, "string_fragment", 18, ⟨1, 2⟩, 19, true, false, false, false, none⟩,
    ⟨4, "`", 19, ⟨1, 3⟩, 20, false, false, false, false, none⟩,
    ⟨2, ";", 20, ⟨1, 4⟩, 21, false, false, false, false, none⟩,
    ⟨1, "expression_statement", 22, ⟨2, 0⟩, 28, true, false, false, false, none⟩,
    ⟨2, "call_expression", 22, ⟨2, 0⟩, 27, true, false, false, false, none⟩,
    ⟨3, "identifier", 22, ⟨2, 0⟩, 23, true, false, false, false, some .function⟩,
    ⟨3, "optional_chain", 23, ⟨2, 1⟩, 25, true, false, false, false, none⟩,
    ⟨3, "arguments", 25, ⟨2, 3⟩, 27, true, false, false, false, some .arguments⟩,
    ⟨4, "(", 25, ⟨2, 3⟩, 26, false, false, false, false, none⟩,
    ⟨4, ")", 26, ⟨2, 4⟩, 27, false, false, false, false, none⟩,
    ⟨2, ";", 27, ⟨2, 5⟩, 28, false, false, false, false, none⟩]

/-- A function that is called only by a tagged template and by an optional call. -/
def shorthand : Source where
  dialect := .javascript
  bytes := Utf8.encode "function f() \x7b\x7d\nf`x`;\nf?.();\n".toList
  root := (Tree.ofRows? shorthandRows).getD
    (.node ⟨"program", 0, ⟨0, 0⟩, 0, true, false, false, false, none⟩ [])

def shorthandFile : Node where
  id := "0"
  name := .text "a.js"
  path := .text "a.js"
  kind := .file
  source := some shorthand

/-- Both calls are named at the top level and make a dependency, and neither has a name as the
callee of an edge. -/
theorem nameless_calls_are_linked :
    shorthand.topLevelCalls = ["f", "f"] ∧
      shorthand.identifierCalls.map Phrase.isTaggedTemplate = [true, false] ∧
      shorthand.identifierCalls.map Phrase.isOptionalCall = [false, true] ∧
      shorthand.identifierCalls.map shorthand.calleeName? = [none, none] ∧
      Dependency.among [.node shorthandFile []] =
        [⟨"f", "f", .text "a.js"⟩, ⟨"f", "f", .text "a.js"⟩] := by
  refine ⟨?_, ?_, ?_, ?_, ?_⟩ <;> decide +kernel

end Source

end CodeAtlas
