-- Where reading a text fails. The search for the fault passes over what is marked as sound. Where
-- the marks can be trusted it comes to the same phrase as a look at all phrases in reading order.
import CodeAtlas.Source.Grammar
import Mathlib.Data.List.Basic

namespace CodeAtlas

namespace Tree

variable {α : Type}

/-! ## Searching with marks -/

/-- Whoever looks for labels that satisfy `stop` need not look below children whose label does not
satisfy `enter`. -/
def Guides (enter stop : α → Bool) (t : Tree α) : Prop :=
  ∀ u ∈ t.preorder, ∀ c ∈ u.children, (∃ v ∈ c.preorder, stop v.label = true) →
    enter c.label = true

theorem Guides.child {enter stop : α → Bool} {t c : Tree α} (h : Guides enter stop t)
    (hc : c ∈ t.children) : Guides enter stop c := by
  intro u hu
  apply h
  exact mem_preorder_trans hu t (mem_preorder_of_mem_children hc)

/-- Trees that are passed over hold nothing to be found. -/
theorem find?_preorderAll_entered {enter stop : α → Bool} {ts : List (Tree α)}
    (henter : ∀ c ∈ ts, (∃ v ∈ c.preorder, stop v.label = true) → enter c.label = true) :
    (preorderAll (entered enter ts)).find? (fun u => stop u.label) =
      (preorderAll ts).find? fun u => stop u.label := by
  unfold entered
  induction ts with
  | nil => rfl
  | cons t ts ih =>
    obtain ⟨hfirst, hrest⟩ := List.forall_mem_cons.1 henter
    rw [List.filter_cons, preorderAll, List.find?_append, ← ih hrest]
    split
    · rw [preorderAll, List.find?_append]
    · rename_i hnot
      have hnone : t.preorder.find? (fun u => stop u.label) = none := by
        rw [List.find?_eq_none]
        intro v hv hstop
        exact hnot (hfirst ⟨v, hv, hstop⟩)
      rw [hnone, Option.none_or]

/-- With marks that guide it, working off a stack finds what comes first in reading order. -/
theorem seek_eq_find? {enter stop : α → Bool} {stack : List (Tree α)}
    (h : ∀ t ∈ stack, Guides enter stop t) :
    seek stop enter stack = (preorderAll stack).find? fun u => stop u.label := by
  fun_induction seek stop enter stack with
  | case1 => rfl
  | case2 a ts rest hstop => simp [preorderAll, preorder, label, hstop]
  | case3 a ts rest hstop ih =>
    obtain ⟨hnode, hrest⟩ := List.forall_mem_cons.1 h
    have hstack : ∀ t ∈ entered enter ts ++ rest, Guides enter stop t := by
      intro t ht
      rcases List.mem_append.1 ht with ht | ht
      · exact hnode.child (List.mem_filter.1 ht).1
      · exact hrest t ht
    have henter : ∀ c ∈ ts, (∃ v ∈ c.preorder, stop v.label = true) → enter c.label = true :=
      hnode (node a ts) (self_mem_preorder _)
    rw [ih hstack, preorderAll_append, List.find?_append, find?_preorderAll_entered henter,
      preorderAll, preorder, List.find?_append,
      List.find?_cons_of_neg (by simpa [label] using hstop)]

theorem search_eq_find? {enter stop : α → Bool} {t : Tree α} (h : Guides enter stop t) :
    t.search stop enter = t.preorder.find? fun u => stop u.label := by
  have hstack : ∀ u ∈ [t], Guides enter stop u := by simpa using h
  rw [search, seek_eq_find? hstack]
  simp [preorderAll]

/-! ## The last leaf -/

/-- Nothing stands below the top. -/
def isLeaf (t : Tree α) : Bool := t.children.isEmpty

/-- The subtrees with nothing below them, from left to right. -/
def leaves (t : Tree α) : List (Tree α) := t.preorder.filter isLeaf

theorem exists_lastLeafOf {ts : List (Tree α)} (h : ts ≠ []) : ∃ u, lastLeafOf ts = some u := by
  induction ts with
  | nil => exact absurd rfl h
  | cons t ts ih =>
    cases ts with
    | nil => exact ⟨t.lastLeaf, rfl⟩
    | cons next rest => exact ih (List.cons_ne_nil next rest)

mutual

/-- Going to the last child again and again leads to the rightmost leaf. -/
theorem getLast?_leaves : (t : Tree α) → t.leaves.getLast? = some t.lastLeaf
  | node a [] => rfl
  | node a (t :: ts) => by
    have hnode : isLeaf (node a (t :: ts)) = false := rfl
    obtain ⟨u, hu⟩ := exists_lastLeafOf (List.cons_ne_nil t ts)
    unfold leaves preorder lastLeaf
    rw [List.filter_cons_of_neg (by simp [hnode]), getLast?_leavesAll (t :: ts), hu,
      Option.getD_some]

theorem getLast?_leavesAll : (ts : List (Tree α)) →
    ((preorderAll ts).filter isLeaf).getLast? = lastLeafOf ts
  | [] => rfl
  | [t] => by
    unfold preorderAll preorderAll lastLeafOf
    rw [List.append_nil]
    exact getLast?_leaves t
  | t :: next :: rest => by
    obtain ⟨u, hu⟩ := exists_lastLeafOf (List.cons_ne_nil next rest)
    have hrest := getLast?_leavesAll (next :: rest)
    unfold preorderAll lastLeafOf
    rw [List.filter_append, List.getLast?_append, hrest, hu, Option.some_or]

end

end Tree

/-! ## Marks that can be trusted -/

namespace Phrase

/-- What a grammar says of faults agrees: an error is faulty, a phrase with a missing phrase, an
error or a faulty phrase directly in it is faulty, and in a faulty phrase something is missing or
an error. -/
structure Consistent (root : Phrase) : Prop where
  faulty_of_error : ∀ p ∈ root.preorder, p.label.error = true → p.label.faulty = true
  faulty_of_child : ∀ p ∈ root.preorder, ∀ c ∈ p.children,
    (c.label.missing = true ∨ c.label.error = true ∨ c.label.faulty = true) →
      p.label.faulty = true
  exists_of_faulty : ∀ p ∈ root.preorder, p.label.faulty = true →
    ∃ q ∈ p.preorder, q.label.missing = true ∨ q.label.error = true

theorem Consistent.of_mem {root p : Phrase} (h : root.Consistent) (hp : p ∈ root.preorder) :
    p.Consistent where
  faulty_of_error q hq := h.faulty_of_error q (Tree.mem_preorder_trans hq root hp)
  faulty_of_child q hq := h.faulty_of_child q (Tree.mem_preorder_trans hq root hp)
  exists_of_faulty q hq := h.exists_of_faulty q (Tree.mem_preorder_trans hq root hp)

theorem mayHoldFault_iff (t : Token) :
    mayHoldFault t = true ↔ t.faulty = true ∨ t.missing = true := by
  unfold mayHoldFault
  rw [Bool.or_eq_true]

/-- The search goes into every phrase that holds something missing or an error. -/
theorem Consistent.mayHoldFault_of_mem : (root : Phrase) → root.Consistent → ∀ p ∈ root.preorder,
    (p.label.missing = true ∨ p.label.error = true) → mayHoldFault root.label = true
  | .node t ps, h, p, hp, hmark => by
    have hself : (.node t ps : Phrase) ∈ (.node t ps : Phrase).preorder := Tree.self_mem_preorder _
    rw [mayHoldFault_iff]
    unfold Tree.preorder at hp
    rcases List.mem_cons.1 hp with rfl | hbelow
    · rcases hmark with hmissing | herror
      · exact Or.inr hmissing
      · exact Or.inl (h.faulty_of_error _ hself herror)
    · rw [Tree.preorderAll_eq_flatMap] at hbelow
      obtain ⟨c, hc, hpc⟩ := List.mem_flatMap.1 hbelow
      have hchild := Consistent.mayHoldFault_of_mem c
        (h.of_mem (Tree.mem_preorder_of_mem_children hc)) p hpc hmark
      left
      apply h.faulty_of_child _ hself c hc
      rcases (mayHoldFault_iff _).1 hchild with hfaulty | hmissing
      · exact Or.inr (Or.inr hfaulty)
      · exact Or.inl hmissing
termination_by root => sizeOf root
decreasing_by
  have hsize := List.sizeOf_lt_of_mem hc
  simp only [Tree.node.sizeOf_spec]
  omega

theorem Consistent.guides {root : Phrase} (h : root.Consistent) {stop : Token → Bool}
    (hstop : ∀ t, stop t = true → t.missing = true ∨ t.error = true) :
    Tree.Guides mayHoldFault stop root := by
  intro p hp c hc hfound
  obtain ⟨q, hq, hqstop⟩ := hfound
  have hcp : c ∈ root.preorder :=
    Tree.mem_preorder_trans (Tree.mem_preorder_of_mem_children hc) root hp
  exact Consistent.mayHoldFault_of_mem c (h.of_mem hcp) q hq (hstop _ hqstop)

/-- The first missing phrase of all, if there is one. -/
def firstMissing? (root : Phrase) : Option Phrase := root.preorder.find? fun p => p.label.missing

/-- The first error of all, if there is one. -/
def firstError? (root : Phrase) : Option Phrase := root.preorder.find? fun p => p.label.error

theorem Consistent.culprit_of_missing {root p : Phrase} (h : root.Consistent)
    (hp : root.firstMissing? = some p) : root.culprit = p := by
  have hguides : Tree.Guides mayHoldFault (·.missing) root := h.guides fun _ => Or.inl
  unfold culprit
  rw [Tree.search_eq_find? hguides]
  unfold firstMissing? at hp
  rw [hp]

theorem Consistent.culprit_of_error {root e : Phrase} (h : root.Consistent)
    (hnone : root.firstMissing? = none) (he : root.firstError? = some e) :
    root.culprit = e.lastLeaf := by
  have hguides : Tree.Guides mayHoldFault (·.missing) root := h.guides fun _ => Or.inl
  have hguides' : Tree.Guides mayHoldFault (·.error) root := h.guides fun _ => Or.inr
  unfold culprit
  rw [Tree.search_eq_find? hguides, Tree.search_eq_find? hguides']
  unfold firstMissing? at hnone
  unfold firstError? at he
  rw [hnone, he]

/-- Something is an error in a faulty phrase in which nothing is missing. -/
theorem Consistent.exists_error {root : Phrase} (h : root.Consistent)
    (hfaulty : root.label.faulty = true) (hnone : root.firstMissing? = none) :
    ∃ e, root.firstError? = some e := by
  obtain ⟨q, hq, hmissing | herror⟩ := h.exists_of_faulty root (Tree.self_mem_preorder root) hfaulty
  · exact absurd hmissing (List.find?_eq_none.1 hnone q hq)
  · apply Option.isSome_iff_exists.1
    exact List.find?_isSome.2 ⟨q, hq, herror⟩

theorem not_missing_of_mem {root p : Phrase} (hnone : root.firstMissing? = none)
    (hp : p ∈ root.preorder) : p.label.missing = false := by
  simpa using List.find?_eq_none.1 hnone p hp

end Phrase

/-! ## Reading -/

theorem Dialect.ofName?_name (d : Dialect) : ofName? d.name = some d := by
  cases d <;> decide

namespace Source

/-- A dialect is known by its name, so that a text can only be at fault. -/
theorem readNamed_name (g : Grammar) (d : Dialect) (path text : String) :
    readNamed g d.name path text = (read g d text).mapError (.fault path) := by
  unfold readNamed
  rw [Dialect.ofName?_name]

/-- A text and what a grammar finds in it, sound or not. -/
def raw (g : Grammar) (d : Dialect) (text : String) : Source :=
  ⟨d, Utf8.encode text.toList, g.phrase d text⟩

theorem read_eq (g : Grammar) (d : Dialect) (text : String) :
    read g d text = if (raw g d text).root.label.faulty then .error (raw g d text).fault
      else .ok (raw g d text) := rfl

theorem readNamed_of_sound {g : Grammar} {d : Dialect} {text : String}
    (h : (raw g d text).root.label.faulty = false) (path : String) :
    readNamed g d.name path text = .ok (raw g d text) := by
  rw [readNamed_name, read_eq, h]
  rfl

theorem readNamed_of_faulty {g : Grammar} {d : Dialect} {text : String}
    (h : (raw g d text).root.label.faulty = true) (path : String) :
    readNamed g d.name path text = .error (.fault path (raw g d text).fault) := by
  rw [readNamed_name, read_eq, h]
  rfl

theorem fault_of_missing {s : Source} (h : s.root.Consistent) {p : Phrase}
    (hp : s.root.firstMissing? = some p) : s.fault = ⟨s.locationOf p, .missing p.kind⟩ := by
  have hmissing := List.find?_some (p := fun q : Phrase => q.label.missing) hp
  unfold fault
  rw [h.culprit_of_missing hp]
  simp [hmissing]

theorem fault_of_error {s : Source} (h : s.root.Consistent) {e : Phrase}
    (hnone : s.root.firstMissing? = none) (he : s.root.firstError? = some e) :
    s.fault = ⟨s.locationOf e.lastLeaf, .unexpected⟩ := by
  have hleaf : e.lastLeaf ∈ e.leaves := List.mem_of_getLast? (Tree.getLast?_leaves e)
  have hmem : e.lastLeaf ∈ s.root.preorder :=
    Tree.mem_preorder_trans (List.mem_filter.1 hleaf).1 s.root (List.mem_of_find?_eq_some he)
  unfold fault
  rw [h.culprit_of_error hnone he]
  simp [Phrase.not_missing_of_mem hnone hmem]

/-- A text in whose phrases the marks of faults agree cannot be read exactly if the whole is marked
as faulty. The fault then stands at the first missing phrase of all; if there is none, there is an
error, and the fault stands at the rightmost leaf of the first one. -/
theorem fault_at_first_missing_or_error (g : Grammar) (d : Dialect) (path text : String)
    (h : (g.phrase d text).Consistent) :
    ((∃ f, readNamed g d.name path text = .error (.fault path f)) ↔
      (g.phrase d text).label.faulty = true) ∧
    ((g.phrase d text).label.faulty = false →
      readNamed g d.name path text = .ok (raw g d text)) ∧
    ∀ f, readNamed g d.name path text = .error (.fault path f) →
      (∀ p, (g.phrase d text).firstMissing? = some p →
        f.location = (raw g d text).locationOf p ∧ f.detail.message = "missing " ++ p.kind) ∧
      ((g.phrase d text).firstMissing? = none → ∃ e leaf,
        (g.phrase d text).firstError? = some e ∧ e.leaves.getLast? = some leaf ∧
          f.location = (raw g d text).locationOf leaf ∧ f.detail.message = "unexpected token") := by
  have hroot : (raw g d text).root = g.phrase d text := rfl
  rw [← hroot] at h ⊢
  cases hfaulty : (raw g d text).root.label.faulty with
  | false =>
    have hread := readNamed_of_sound hfaulty path
    simp [hread]
  | true =>
    have hread := readNamed_of_faulty hfaulty path
    refine ⟨by simp [hread], by simp, ?_⟩
    intro f hf
    rw [hread] at hf
    cases hf
    refine ⟨?_, ?_⟩
    · intro p hp
      rw [fault_of_missing h hp]
      exact ⟨rfl, rfl⟩
    · intro hnone
      obtain ⟨e, he⟩ := h.exists_error hfaulty hnone
      refine ⟨e, e.lastLeaf, he, Tree.getLast?_leaves e, ?_⟩
      rw [fault_of_error h hnone he]
      exact ⟨rfl, rfl⟩

/-- A text of two lines that cannot be read. -/
def brokenText : String := ";=\n("

/-- Where the byte of the text stands. -/
def brokenPoint (start : Nat) : Point := .ofOffset (Utf8.encode brokenText.toList) start

/-- A phrase of the text, marked as faulty or not. -/
def piece (kind : String) (start : Nat) (faulty : Bool) (below : List Phrase) : Phrase :=
  .node ⟨kind, start, brokenPoint start, start + 1, true, false, false, faulty, none⟩ below

/-- A piece of text that fits nowhere. -/
def misfit (start : Nat) (below : List Phrase) : Phrase :=
  .node ⟨"ERROR", start, brokenPoint start, start + 1, true, false, true, true, none⟩ below

/-- A name that should stand at the place. -/
def gap (start : Nat) : Phrase :=
  .node ⟨"identifier", start, brokenPoint start, start, true, true, false, true, none⟩ []

/-- The text with an error on the first line and a gap deep in the second. -/
def gappedPhrase : Phrase :=
  piece "program" 0 true
    [piece "empty_statement" 0 false [], misfit 1 [piece "=" 1 false []],
      piece "expression_statement" 3 true [piece "call" 3 true [piece "(" 3 false [], gap 4]]]

/-- The same text without the gap. -/
def misfitPhrase : Phrase :=
  piece "program" 0 true
    [piece "empty_statement" 0 false [],
      misfit 1 [piece "=" 1 false [], piece "block" 3 false [piece "(" 3 false []]]]

theorem fault_at_first_missing_or_error_gapped :
    gappedPhrase.Consistent ∧ misfitPhrase.Consistent ∧
      (∃ f, readNamed ⟨fun _ _ => gappedPhrase⟩ "tsx" "a.tsx" brokenText =
          .error (.fault "a.tsx" f) ∧
        f.location = ⟨2, 1⟩ ∧ f.detail.message = "missing identifier") ∧
      ∃ f, readNamed ⟨fun _ _ => misfitPhrase⟩ "tsx" "a.tsx" brokenText =
          .error (.fault "a.tsx" f) ∧
        f.location = ⟨2, 0⟩ ∧ f.detail.message = "unexpected token" := by
  have hgapped : gappedPhrase.Consistent := by
    refine ⟨?_, ?_, ?_⟩ <;> decide +kernel
  have hmisfit : misfitPhrase.Consistent := by
    refine ⟨?_, ?_, ?_⟩ <;> decide +kernel
  obtain ⟨hfails, -, hplace⟩ :=
    fault_at_first_missing_or_error ⟨fun _ _ => gappedPhrase⟩ .tsx "a.tsx" brokenText hgapped
  obtain ⟨hfails', -, hplace'⟩ :=
    fault_at_first_missing_or_error ⟨fun _ _ => misfitPhrase⟩ .tsx "a.tsx" brokenText hmisfit
  refine ⟨hgapped, hmisfit, ?_, ?_⟩
  · obtain ⟨f, hf⟩ := hfails.2 rfl
    obtain ⟨hlocation, hmessage⟩ := (hplace f hf).1 (gap 4) rfl
    refine ⟨f, hf, hlocation.trans ?_, hmessage⟩
    decide +kernel
  · obtain ⟨f, hf⟩ := hfails'.2 rfl
    obtain ⟨e, leaf, he, hleaf, hlocation, hmessage⟩ := (hplace' f hf).2 rfl
    cases he
    cases hleaf
    refine ⟨f, hf, hlocation.trans ?_, hmessage⟩
    decide +kernel

end Source

end CodeAtlas
