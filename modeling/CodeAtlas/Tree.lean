-- Trees with a label at every node: how a reader walks them, and how they are
-- built again from the list of their labels and depths.

namespace CodeAtlas

/-- A tree with a label at every node and any number of children. -/
inductive Tree (α : Type) where
  | node (label : α) (children : List (Tree α))

namespace Tree

variable {α β : Type}

instance [Inhabited α] : Inhabited (Tree α) := ⟨.node default []⟩

def label : Tree α → α
  | node a _ => a

/-- The trees directly below the top. -/
def children : Tree α → List (Tree α)
  | node _ ts => ts

/-! ## Reading order -/

mutual

/-- All subtrees, each before the ones below it, siblings in order. -/
def preorder : Tree α → List (Tree α)
  | node a ts => node a ts :: preorderAll ts

/-- `preorder` of several trees, one after the other. -/
def preorderAll : List (Tree α) → List (Tree α)
  | [] => []
  | t :: ts => t.preorder ++ preorderAll ts

end

mutual

/-- The number of nodes. -/
def size : Tree α → Nat
  | node _ ts => 1 + sizeAll ts

/-- The number of nodes of several trees. -/
def sizeAll : List (Tree α) → Nat
  | [] => 0
  | t :: ts => t.size + sizeAll ts

end

theorem sizeAll_append (ts us : List (Tree α)) : sizeAll (ts ++ us) = sizeAll ts + sizeAll us := by
  induction ts with
  | nil => simp [sizeAll]
  | cons t ts ih => simp [sizeAll, ih, Nat.add_assoc]

/-- Works off a stack of trees: the top one is met, then its children take its place. -/
def visit : List (Tree α) → List (Tree α)
  | [] => []
  | node a ts :: rest => node a ts :: visit (ts ++ rest)
termination_by stack => sizeAll stack
decreasing_by simp [sizeAll, size, sizeAll_append]

/-- All subtrees in the order in which a walk with a stack meets them. -/
def walk (t : Tree α) : List (Tree α) := visit [t]

theorem preorderAll_append (ts us : List (Tree α)) :
    preorderAll (ts ++ us) = preorderAll ts ++ preorderAll us := by
  induction ts with
  | nil => simp [preorderAll]
  | cons t ts ih => simp [preorderAll, ih]

theorem preorderAll_eq_flatMap (ts : List (Tree α)) : preorderAll ts = ts.flatMap preorder := by
  induction ts with
  | nil => rfl
  | cons t ts ih => simp [preorderAll, ih]

mutual

theorem mem_preorder_trans {u v : Tree α} (h : u ∈ v.preorder) :
    (t : Tree α) → v ∈ t.preorder → u ∈ t.preorder
  | node a ts, hv => by
    rcases List.mem_cons.1 hv with rfl | hv
    · exact h
    · exact List.mem_cons_of_mem _ (mem_preorderAll_trans h ts hv)

theorem mem_preorderAll_trans {u v : Tree α} (h : u ∈ v.preorder) :
    (ts : List (Tree α)) → v ∈ preorderAll ts → u ∈ preorderAll ts
  | [], hv => by cases hv
  | t :: ts, hv => by
    unfold preorderAll at hv ⊢
    rcases List.mem_append.1 hv with hv | hv
    · exact List.mem_append_left _ (mem_preorder_trans h t hv)
    · exact List.mem_append_right _ (mem_preorderAll_trans h ts hv)

end

theorem self_mem_preorder (t : Tree α) : t ∈ t.preorder := by
  cases t
  exact List.mem_cons_self

theorem mem_preorder_of_mem_children {t c : Tree α} (h : c ∈ t.children) : c ∈ t.preorder := by
  obtain ⟨a, ts⟩ := t
  unfold preorder
  rw [preorderAll_eq_flatMap]
  exact List.mem_cons_of_mem _ (List.mem_flatMap.2 ⟨c, h, self_mem_preorder c⟩)

theorem visit_eq_preorderAll (stack : List (Tree α)) : visit stack = preorderAll stack := by
  fun_induction visit stack with
  | case1 => rfl
  | case2 a ts rest ih => simp [preorderAll, preorder, preorderAll_append, ih]

/-- The walk meets the subtrees in reading order. -/
theorem walk_eq_preorder (t : Tree α) : t.walk = t.preorder := by
  simp [walk, visit_eq_preorderAll, preorderAll]

/-! ## Changing labels -/

mutual

/-- Changes every label and keeps the shape. -/
def map (f : α → β) : Tree α → Tree β
  | node a ts => node (f a) (mapAll f ts)

def mapAll (f : α → β) : List (Tree α) → List (Tree β)
  | [] => []
  | t :: ts => t.map f :: mapAll f ts

end

theorem mapAll_eq_map (f : α → β) (ts : List (Tree α)) : mapAll f ts = ts.map (map f) := by
  induction ts with
  | nil => rfl
  | cons t ts ih => simp [mapAll, ih]

theorem children_map (f : α → β) (t : Tree α) : (t.map f).children = t.children.map (map f) := by
  cases t
  exact mapAll_eq_map f _

theorem label_map (f : α → β) (t : Tree α) : (t.map f).label = f t.label := by
  cases t; rfl

mutual

/-- The subtrees of a tree with other labels are the subtrees with other labels. -/
theorem preorder_map (f : α → β) : (t : Tree α) → (t.map f).preorder = t.preorder.map (map f)
  | node a ts => by simp [map, preorder, preorderAll_map f ts]

theorem preorderAll_map (f : α → β) : (ts : List (Tree α)) →
    preorderAll (mapAll f ts) = (preorderAll ts).map (map f)
  | [] => rfl
  | t :: ts => by simp [mapAll, preorderAll, preorder_map f t, preorderAll_map f ts]

end

/-! ## Searching -/

/-- The trees whose label satisfies `enter`. -/
def entered (enter : α → Bool) (ts : List (Tree α)) : List (Tree α) :=
  ts.filter fun t => enter t.label

theorem sizeAll_entered_le (enter : α → Bool) (ts : List (Tree α)) :
    sizeAll (entered enter ts) ≤ sizeAll ts := by
  unfold entered
  induction ts with
  | nil => simp
  | cons t ts ih =>
    rw [List.filter_cons]
    split <;> simp only [sizeAll] <;> omega

/-- Works off a stack of trees until the label of the top one satisfies `stop`. Before that, the
children that may be entered take the place of their parent. -/
def seek (stop enter : α → Bool) : List (Tree α) → Option (Tree α)
  | [] => none
  | node a ts :: rest =>
    if stop a then some (node a ts)
    else seek stop enter (entered enter ts ++ rest)
termination_by stack => sizeAll stack
decreasing_by
  have := sizeAll_entered_le enter ts
  simp only [sizeAll, size, sizeAll_append]
  omega

/-- The first subtree that a walk with a stack comes to whose label satisfies `stop`, when it goes
below a node only into children whose label satisfies `enter`. -/
def search (stop enter : α → Bool) (t : Tree α) : Option (Tree α) := seek stop enter [t]

mutual

/-- The node reached by going to the last child again and again. -/
def lastLeaf : Tree α → Tree α
  | node a ts => (lastLeafOf ts).getD (node a ts)

/-- `lastLeaf` of the last of several trees. -/
def lastLeafOf : List (Tree α) → Option (Tree α)
  | [] => none
  | [t] => some t.lastLeaf
  | _ :: t :: ts => lastLeafOf (t :: ts)

end

/-! ## Trees as indented lists -/

/-- One line of an indented list: how deep a node stands, and its label. -/
structure Row (α : Type) where
  depth : Nat
  label : α

/-- Puts a row in front of the trees that follow it. The deeper ones among the first become
its children. -/
def adopt (row : Row α) (later : List (Nat × Tree α)) : List (Nat × Tree α) :=
  let (below, rest) := later.span (fun entry => row.depth < entry.1)
  (row.depth, node row.label (below.map (·.2))) :: rest

/-- The trees that an indented list stands for. -/
def forestOfRows (rows : List (Row α)) : List (Tree α) :=
  (rows.foldr adopt []).map (·.2)

/-- The first tree of an indented list. -/
def ofRows? (rows : List (Row α)) : Option (Tree α) := (forestOfRows rows).head?

end Tree

end CodeAtlas
