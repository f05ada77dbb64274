-- Walks with a stack. Every turn of a walk takes one tree off the stack, so that a walk ends after
-- as many turns as there are nodes. It meets the node at every place once, in the order of the
-- places, and all that lies below a node without a break.
import CodeAtlas.Tree

namespace CodeAtlas.Tree

variable {α : Type}

/-! ## The turns of a walk -/

theorem size_pos (t : Tree α) : 0 < t.size := by
  obtain ⟨a, ts⟩ := t
  unfold size
  omega

/-- A walk that is under way: the trees still to be met, the next one first, and those met so
far. -/
structure Walk (α : Type) where
  stack : List (Tree α)
  met : List (Tree α)

namespace Walk

variable {w w' : Walk α} {n : Nat}

/-- A walk that begins. -/
def start (t : Tree α) : Walk α := ⟨[t], []⟩

/-- One turn: the top of the stack is met, and its children take its place. There is no turn left
when the stack is empty. -/
def step : Walk α → Option (Walk α)
  | ⟨[], _⟩ => none
  | ⟨t :: rest, met⟩ => some ⟨t.children ++ rest, met ++ [t]⟩

/-- The walk after a number of turns, unless it ends before. -/
def after : Nat → Walk α → Option (Walk α)
  | 0, w => some w
  | n + 1, w => w.step.bind (after n)

/-- How a walk goes from one state to another in a number of turns: what it has met and what it will
meet stay the same when put together, and every turn moves one node from here to there. -/
structure Leads (n : Nat) (w w' : Walk α) : Prop where
  whole : w'.met ++ visit w'.stack = w.met ++ visit w.stack
  met : w'.met.length = w.met.length + n
  left : sizeAll w'.stack + n = sizeAll w.stack

theorem leads_of_step (h : w.step = some w') : Leads 1 w w' := by
  obtain ⟨stack, met⟩ := w
  cases stack with
  | nil => cases h
  | cons t rest =>
    obtain ⟨a, ts⟩ := t
    cases h
    refine ⟨?_, ?_, ?_⟩
    · rw [visit]
      simp [children]
    · simp
    · simp [sizeAll, size, sizeAll_append, children]
      omega

theorem leads_of_after (h : after n w = some w') : Leads n w w' := by
  induction n generalizing w with
  | zero =>
    cases h
    exact ⟨rfl, rfl, rfl⟩
  | succ n ih =>
    obtain ⟨next, hstep, hafter⟩ := Option.bind_eq_some_iff.1 h
    have hfirst := leads_of_step hstep
    have hrest := ih hafter
    refine ⟨hrest.whole.trans hfirst.whole, ?_, ?_⟩
    · have := hfirst.met
      have := hrest.met
      omega
    · have := hfirst.left
      have := hrest.left
      omega

theorem exists_step (h : 0 < sizeAll w.stack) : ∃ w', w.step = some w' := by
  obtain ⟨stack, met⟩ := w
  cases stack with
  | nil => cases h
  | cons t rest => exact ⟨_, rfl⟩

/-- There is a turn for every node on the stack or below one. -/
theorem exists_after (h : n ≤ sizeAll w.stack) : ∃ w', after n w = some w' := by
  induction n generalizing w with
  | zero => exact ⟨w, rfl⟩
  | succ n ih =>
    have hpos : 0 < sizeAll w.stack := by omega
    obtain ⟨next, hstep⟩ := exists_step hpos
    have hnext : n ≤ sizeAll next.stack := by
      have hleft := (leads_of_step hstep).left
      omega
    obtain ⟨w', hafter⟩ := ih hnext
    exact ⟨w', Option.bind_eq_some_iff.2 ⟨next, hstep, hafter⟩⟩

theorem after_eq_none (h : sizeAll w.stack < n) : after n w = none := by
  cases hafter : after n w with
  | none => rfl
  | some w' =>
    have hleft := (leads_of_after hafter).left
    omega

theorem sizeAll_start (t : Tree α) : sizeAll (start t).stack = t.size := by
  simp [start, sizeAll]

/-- After some turns, as many nodes of the whole walk have been met. -/
theorem met_of_after {t : Tree α} (h : after n (start t) = some w) : w.met = t.walk.take n := by
  have hleads := leads_of_after h
  have hwhole : w.met ++ visit w.stack = t.walk := hleads.whole
  have hlength : w.met.length = n := by simpa [start] using hleads.met
  rw [← hwhole, ← hlength, List.take_left]

theorem map_met_after (t : Tree α) (n : Nat) :
    (after n (start t)).map met = if n ≤ t.size then some (t.walk.take n) else none := by
  split
  · rename_i hle
    have hturns : n ≤ sizeAll (start t).stack := by rwa [sizeAll_start]
    obtain ⟨w, hw⟩ := exists_after hturns
    rw [hw, Option.map_some, met_of_after hw]
  · rename_i hgt
    have hturns : sizeAll (start t).stack < n := by
      rw [sizeAll_start]
      omega
    rw [after_eq_none hturns]
    rfl

/-- With the last node the stack is empty and the walk is over. -/
theorem after_size (t : Tree α) : after t.size (start t) = some ⟨[], t.walk⟩ := by
  have hturns : t.size ≤ sizeAll (start t).stack := Nat.le_of_eq (sizeAll_start t).symm
  obtain ⟨⟨stack, met⟩, hafter⟩ := exists_after hturns
  have hleads := leads_of_after hafter
  have hleft : sizeAll stack + t.size = t.size := by simpa only [sizeAll_start] using hleads.left
  have hempty : stack = [] := by
    cases stack with
    | nil => rfl
    | cons u rest =>
      have hu := size_pos u
      unfold sizeAll at hleft
      omega
  subst hempty
  have hwhole : met ++ visit [] = t.walk := hleads.whole
  rw [hafter, ← hwhole]
  simp [visit]

end Walk

/-! ## Places -/

/-- The subtree at a place. A place is told by the number of the child to go to, at every node on
the way. -/
def at? : List Nat → Tree α → Option (Tree α)
  | [], t => some t
  | i :: place, t => t.children[i]?.bind (at? place)

mutual

/-- All subtrees with their places, each before the ones below it. -/
def places : Tree α → List (List Nat × Tree α)
  | node a ts => ([], node a ts) :: placesAll 0 ts

/-- `places` of several trees, where the first one has the number `i`. -/
def placesAll (i : Nat) : List (Tree α) → List (List Nat × Tree α)
  | [] => []
  | t :: ts => t.places.map (Prod.map (i :: ·) id) ++ placesAll (i + 1) ts

end

mutual

theorem map_snd_places : (t : Tree α) → t.places.map Prod.snd = t.preorder
  | node a ts => by
    unfold places preorder
    rw [List.map_cons, map_snd_placesAll 0 ts]

theorem map_snd_placesAll (i : Nat) : (ts : List (Tree α)) →
    (placesAll i ts).map Prod.snd = preorderAll ts
  | [] => rfl
  | t :: ts => by
    unfold placesAll preorderAll
    rw [List.map_append, List.map_map, map_snd_placesAll (i + 1) ts, ← map_snd_places t]
    rfl

end

/-- What is found among several trees is found in one of them. -/
theorem mem_placesAll_iff {i : Nat} {place : List Nat} {d : Tree α} {ts : List (Tree α)} :
    (place, d) ∈ placesAll i ts ↔
      ∃ k below c, place = (i + k) :: below ∧ ts[k]? = some c ∧ (below, d) ∈ c.places := by
  induction ts generalizing i with
  | nil => simp [placesAll]
  | cons t ts ih =>
    unfold placesAll
    rw [List.mem_append, ih, List.mem_map]
    constructor
    · rintro (⟨⟨below, d'⟩, hmem, heq⟩ | ⟨k, below, c, rfl, hc, hmem⟩)
      · cases heq
        exact ⟨0, below, t, rfl, rfl, hmem⟩
      · exact ⟨k + 1, below, c, by rw [Nat.add_right_comm, Nat.add_assoc], hc, hmem⟩
    · rintro ⟨k, below, c, rfl, hc, hmem⟩
      cases k with
      | zero =>
        cases hc
        exact Or.inl ⟨(below, d), hmem, rfl⟩
      | succ k =>
        exact Or.inr ⟨k, below, c, by rw [Nat.add_right_comm, Nat.add_assoc], hc, hmem⟩

/-- At every place there is what is found there. -/
theorem mem_places_iff {place : List Nat} {d t : Tree α} :
    (place, d) ∈ t.places ↔ t.at? place = some d := by
  induction place generalizing t with
  | nil =>
    obtain ⟨a, ts⟩ := t
    unfold places at?
    rw [List.mem_cons, mem_placesAll_iff]
    simp [eq_comm]
  | cons i place ih =>
    obtain ⟨a, ts⟩ := t
    unfold places at?
    rw [List.mem_cons, mem_placesAll_iff, Option.bind_eq_some_iff]
    constructor
    · rintro (heq | ⟨k, below, c, heq, hc, hmem⟩)
      · cases heq
      · cases heq
        exact ⟨c, by simpa [children] using hc, ih.1 hmem⟩
    · rintro ⟨c, hc, hd⟩
      exact Or.inr ⟨i, place, c, by rw [Nat.zero_add], hc, ih.2 hd⟩

mutual

/-- The places come in their order: one above another first, and else by the first child on the way
that differs. -/
theorem pairwise_places : (t : Tree α) → (t.places.map Prod.fst).Pairwise (· < ·)
  | node a ts => by
    unfold places
    rw [List.map_cons, List.pairwise_cons]
    refine ⟨?_, pairwise_placesAll 0 ts⟩
    intro place hplace
    obtain ⟨⟨_, d⟩, hmem, rfl⟩ := List.mem_map.1 hplace
    obtain ⟨k, below, c, rfl, -⟩ := mem_placesAll_iff.1 hmem
    exact List.nil_lt_cons _ _

theorem pairwise_placesAll (i : Nat) : (ts : List (Tree α)) →
    ((placesAll i ts).map Prod.fst).Pairwise (· < ·)
  | [] => List.Pairwise.nil
  | t :: ts => by
    unfold placesAll
    rw [List.map_append, List.pairwise_append]
    refine ⟨?_, pairwise_placesAll (i + 1) ts, ?_⟩
    · have hplaces := pairwise_places t
      rw [List.pairwise_map] at hplaces
      rw [List.map_map, List.pairwise_map]
      refine hplaces.imp ?_
      intro x y hlt
      exact List.cons_lt_cons_iff.2 (Or.inr ⟨rfl, hlt⟩)
    · intro place hplace later hlater
      rw [List.map_map] at hplace
      obtain ⟨x, -, rfl⟩ := List.mem_map.1 hplace
      obtain ⟨⟨_, d⟩, hmem, rfl⟩ := List.mem_map.1 hlater
      obtain ⟨k, below, c, rfl, -⟩ := mem_placesAll_iff.1 hmem
      exact List.cons_lt_cons_iff.2 (Or.inl (by omega))

end

/-- What one of several trees holds comes without a break. -/
theorem exists_placesAll_append {ts : List (Tree α)} {k : Nat} {c : Tree α} (h : ts[k]? = some c)
    (i : Nat) :
    ∃ before rest,
      placesAll i ts = before ++ c.places.map (Prod.map ((i + k) :: ·) id) ++ rest := by
  induction ts generalizing i k with
  | nil => cases h
  | cons t ts ih =>
    unfold placesAll
    cases k with
    | zero =>
      cases h
      exact ⟨[], placesAll (i + 1) ts, rfl⟩
    | succ k =>
      obtain ⟨before, rest, hplaces⟩ := ih h (i + 1)
      refine ⟨t.places.map (Prod.map (i :: ·) id) ++ before, rest, ?_⟩
      rw [hplaces, Nat.add_right_comm, Nat.add_assoc]
      simp

/-- The places below a place come without a break. -/
theorem exists_places_append {place : List Nat} {d t : Tree α} (h : t.at? place = some d) :
    ∃ before rest, t.places = before ++ d.places.map (Prod.map (place ++ ·) id) ++ rest := by
  induction place generalizing t with
  | nil =>
    cases h
    have hself : d.places.map (Prod.map ([] ++ ·) id) = d.places := List.map_id d.places
    exact ⟨[], [], by rw [hself]; simp⟩
  | cons i place ih =>
    obtain ⟨a, ts⟩ := t
    obtain ⟨c, hc, hd⟩ := Option.bind_eq_some_iff.1 h
    obtain ⟨before, rest, hbelow⟩ := ih hd
    obtain ⟨earlier, later, hall⟩ := exists_placesAll_append hc 0
    have hplaces : (node a ts).places = ([], node a ts) :: placesAll 0 ts := by rw [places]
    refine ⟨([], node a ts) :: earlier ++ before.map (Prod.map (i :: ·) id),
      rest.map (Prod.map (i :: ·) id) ++ later, ?_⟩
    rw [hplaces, show placesAll 0 ts = _ from hall, hbelow]
    simp [Function.comp_def]

/-- The walk ends after as many turns as there are nodes, and after every turn has met one more. It
lists the subtrees as the recursion on the tree does: the one at each place once, in the order of
the places. So the walk of what stands at a place is a part of the whole walk without a break, and
the part at the places below that one. -/
theorem walk_meets_every_place_once (t : Tree α) :
    (∀ n, (Walk.after n (.start t)).map Walk.met =
      if n ≤ t.size then some (t.walk.take n) else none) ∧
    Walk.after t.size (.start t) = some ⟨[], t.walk⟩ ∧
    t.walk = t.preorder ∧
    t.walk = t.places.map Prod.snd ∧
    (t.places.map Prod.fst).Pairwise (· < ·) ∧
    (∀ place d, (place, d) ∈ t.places ↔ t.at? place = some d) ∧
    ∀ place d, t.at? place = some d → ∃ before rest,
      t.places = before ++ d.places.map (Prod.map (place ++ ·) id) ++ rest ∧
        t.walk = before.map Prod.snd ++ d.walk ++ rest.map Prod.snd := by
  have hwalk : ∀ u : Tree α, u.walk = u.places.map Prod.snd := fun u =>
    u.walk_eq_preorder.trans u.map_snd_places.symm
  refine ⟨Walk.map_met_after t, Walk.after_size t, t.walk_eq_preorder, hwalk t, pairwise_places t,
    fun _ _ => mem_places_iff, ?_⟩
  intro place d hd
  obtain ⟨before, rest, hplaces⟩ := exists_places_append hd
  refine ⟨before, rest, hplaces, ?_⟩
  rw [hwalk t, hwalk d, hplaces]
  simp [Function.comp_def]

/-! ## A tree with the same signs at two places -/

def signsOfCall : Tree String := node "arguments" [node "(" [], node ")" []]

/-- The shape of the call `f()()`. -/
def doubleCall : Tree String :=
  node "call_expression" [node "call_expression" [node "identifier" [], signsOfCall], signsOfCall]

theorem walk_meets_every_place_once_repeated :
    doubleCall.at? [0, 1] = some signsOfCall ∧ doubleCall.at? [1] = some signsOfCall ∧
      Walk.after 9 (.start doubleCall) = some ⟨[], doubleCall.walk⟩ ∧
      ∃ before rest, doubleCall.places =
          before ++ signsOfCall.places.map (Prod.map ([0, 1] ++ ·) id) ++ rest ∧
        doubleCall.walk = before.map Prod.snd ++ signsOfCall.walk ++ rest.map Prod.snd := by
  obtain ⟨-, hends, -, -, -, -, hwhole⟩ := walk_meets_every_place_once doubleCall
  exact ⟨rfl, rfl, hends, hwhole [0, 1] signsOfCall rfl⟩

end CodeAtlas.Tree
