-- Calls in functions that stand in other functions. Such a call counts for each of the functions
-- around it, and once for each of them, whatever else in the file has their names.
import CodeAtlas.Proofs.Calls.FirstOccurrence
import CodeAtlas.Proofs.Calls.Resolution
import Mathlib.Data.List.Nodup

namespace CodeAtlas

namespace Source

variable {s : Source} {f g : NamedFunction} {call : Phrase} {callee : String}

/-- The caller and the callee of every edge, in order. -/
def calledPairs (s : Source) : List (String × String) :=
  s.callEdges.map fun e => (e.caller, e.callee)

theorem mem_calledPairs_of_call (hf : f ∈ s.namedFunctions) (hcall : call ∈ f.phrase.preorder)
    (hcalls : s.callsAs callee call = true) : (f.caller, callee) ∈ s.calledPairs := by
  have hmeets : s.meets f.caller callee f = true :=
    (s.meets_iff f.caller callee f).2 ⟨rfl, call, hcall, hcalls⟩
  obtain ⟨e, he, hcaller, hcallee⟩ := (s.exists_edge_iff f.caller callee).2 ⟨f, hf, hmeets⟩
  exact List.mem_map.2 ⟨e, he, by rw [hcaller, hcallee]⟩

/-- A call in a function makes one edge of the function. An earlier function of the same name may
have made it, but no second one is made then. -/
theorem count_calledPairs_of_call (hf : f ∈ s.namedFunctions) (hcall : call ∈ f.phrase.preorder)
    (hcalls : s.callsAs callee call = true) : s.calledPairs.count (f.caller, callee) = 1 :=
  List.count_eq_one_of_mem s.nodup_callEdges (mem_calledPairs_of_call hf hcall hcalls)

/-- A call in a function that stands in another one makes one edge of either function. All edges to
what is called there are resolved in the same way, whichever function they are of. -/
theorem nested_call_counts_for_both (s : Source) (f g : NamedFunction) (call : Phrase)
    (callee : String) (hf : f ∈ s.namedFunctions) (hg : g ∈ s.namedFunctions)
    (hnested : g.phrase ∈ f.phrase.preorder) (hcall : call ∈ g.phrase.preorder)
    (hkind : call.isCall = true) (hname : s.calleeName? call = some callee) (hcallee : callee ≠ "")
    (hbuiltin : Platform.isBuiltin callee = false) :
    s.calledPairs.count (g.caller, callee) = 1 ∧ s.calledPairs.count (f.caller, callee) = 1 ∧
      ∀ e ∈ s.callEdges, ∀ e' ∈ s.callEdges, e.callee = callee → e'.callee = callee →
        e.resolution.text = e'.resolution.text ∧ e.resolution.source? = e'.resolution.source? := by
  have hcalls : s.callsAs callee call = true :=
    (s.callsAs_iff callee call).2 ⟨hkind, hname, hcallee, hbuiltin⟩
  have hinside : call ∈ f.phrase.preorder := Tree.mem_preorder_trans hcall _ hnested
  refine ⟨count_calledPairs_of_call hg hcall hcalls,
    count_calledPairs_of_call hf hinside hcalls, ?_⟩
  rintro e he e' he' rfl hsame
  have hresolution : e.resolution = e'.resolution := by
    rw [resolution_of_mem_callEdges he, resolution_of_mem_callEdges he', hsame]
  rw [hresolution]
  exact ⟨rfl, rfl⟩

/-! ## Two functions of one name -/

/-- A phrase without anything special. -/
def plainPhrase (kind : String) (start stop : Nat) (role : Option Role) (ps : List Phrase) :
    Phrase :=
  .node ⟨kind, start, ⟨0, start⟩, stop, true, false, false, false, role⟩ ps

def callOfH (i : Nat) : Phrase :=
  plainPhrase "call_expression" i (i + 3) none
    [plainPhrase "identifier" i (i + 1) (some .function) [],
      plainPhrase "arguments" (i + 1) (i + 3) (some .arguments) []]

/-- The declaration of a function `g` at an offset. All it does is call `h`. -/
def declarationOfG (i : Nat) : Phrase :=
  plainPhrase "function_declaration" i (i + 17) none
    [plainPhrase "identifier" (i + 9) (i + 10) (some .name) [],
      plainPhrase "formal_parameters" (i + 10) (i + 12) none [],
      plainPhrase "statement_block" (i + 12) (i + 17) none
        [plainPhrase "expression_statement" (i + 13) (i + 16) none [callOfH (i + 13)]]]

/-- The function that `f` is bound to. Another function `g` stands in it. -/
def functionF : Phrase :=
  plainPhrase "arrow_function" 25 48 (some .value)
    [plainPhrase "formal_parameters" 25 27 none [],
      plainPhrase "statement_block" 29 48 none [declarationOfG 30]]

/-- A function `g`, and a function `f` with another function `g` in it. -/
def twoOfOneName : Source where
  dialect := .typescript
  bytes := Utf8.encode "function g()\x7bh()\x7dconst f=()=>\x7bfunction g()\x7bh()\x7d\x7d".toList
  root := plainPhrase "program" 0 48 none
    [declarationOfG 0, plainPhrase "lexical_declaration" 17 48 none
      [plainPhrase "variable_declarator" 23 48 none
        [plainPhrase "identifier" 23 24 (some .name) [], functionF]]]

/-- The call in the inner function counts for `f` too, and for `g` only once, since the outer
function of that name makes the same call. -/
theorem nested_call_counts_for_both_namesake :
    ⟨some "f", functionF⟩ ∈ twoOfOneName.namedFunctions ∧
      ⟨some "g", declarationOfG 30⟩ ∈ twoOfOneName.namedFunctions ∧
      ⟨some "g", declarationOfG 0⟩ ∈ twoOfOneName.namedFunctions ∧
      declarationOfG 30 ∈ functionF.preorder ∧ callOfH 43 ∈ (declarationOfG 30).preorder ∧
      twoOfOneName.calleeName? (callOfH 43) = some "h" ∧
      twoOfOneName.calledPairs.count ("g", "h") = 1 ∧
      twoOfOneName.calledPairs.count ("f", "h") = 1 ∧
      ∀ e ∈ twoOfOneName.callEdges, ∀ e' ∈ twoOfOneName.callEdges, e.callee = "h" →
        e'.callee = "h" → e.resolution.text = e'.resolution.text ∧
          e.resolution.source? = e'.resolution.source? := by
  have hfunctions : twoOfOneName.namedFunctions = [⟨some "g", declarationOfG 0⟩,
      ⟨some "f", functionF⟩, ⟨some "g", declarationOfG 30⟩] := by
    unfold namedFunctions
    rw [Tree.walk_eq_preorder]
    rfl
  have hf : ⟨some "f", functionF⟩ ∈ twoOfOneName.namedFunctions := by simp [hfunctions]
  have hg : ⟨some "g", declarationOfG 30⟩ ∈ twoOfOneName.namedFunctions := by simp [hfunctions]
  have hnested : declarationOfG 30 ∈ functionF.preorder := by
    simp [functionF, plainPhrase, Tree.preorder, Tree.preorderAll, declarationOfG]
  have hcall : callOfH 43 ∈ (declarationOfG 30).preorder := by
    simp [declarationOfG, plainPhrase, Tree.preorder, Tree.preorderAll, callOfH]
  have hname : twoOfOneName.calleeName? (callOfH 43) = some "h" := by decide +kernel
  refine ⟨hf, hg, by simp [hfunctions], hnested, hcall, hname, ?_⟩
  exact nested_call_counts_for_both twoOfOneName ⟨some "f", functionF⟩
    ⟨some "g", declarationOfG 30⟩ (callOfH 43) "h" hf hg hnested hcall rfl hname (by decide)
    (by decide +kernel)

end Source

end CodeAtlas
