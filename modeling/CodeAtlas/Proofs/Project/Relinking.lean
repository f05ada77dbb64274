-- The laws of linking again. The imports of a file do not depend on any imports that are already
-- there, so a project that was linked stays as it is, and files may be linked one by one, in any
-- order, in the very project that is searched.
import CodeAtlas.Project.Dependencies
import CodeAtlas.Proofs.Project.ImportGraph

namespace CodeAtlas

/-! ## Changes that the search does not see -/

/-- The change keeps all that the search for imports sees of a node. -/
structure Node.Unseen (f : Node → Node) : Prop where
  kind : ∀ n, (f n).kind = n.kind
  name : ∀ n, (f n).name = n.name
  path : ∀ n, (f n).path = n.path
  source : ∀ n, (f n).source = n.source

namespace Node.Unseen

variable {f : Node → Node} (hf : Node.Unseen f)

include hf

theorem isFile (n : Node) : (f n).isFile = n.isFile := by
  unfold Node.isFile
  rw [hf.kind]

theorem matchesPath (n : Node) (path : String) : (f n).matchesPath path = n.matchesPath path := by
  unfold Node.matchesPath
  rw [hf.path]

theorem relativeSpecifiers (n : Node) :
    Project.relativeSpecifiers (f n) = Project.relativeSpecifiers n := by
  unfold Project.relativeSpecifiers
  rw [hf.source]

theorem find?_map (p : Project) (path : String) :
    Project.find? path (p.map f) = (Project.find? path p).map f := by
  have hmatches : (fun n => Node.matchesPath n path) ∘ f = fun n => n.matchesPath path := by
    funext n
    exact hf.matchesPath n path
  rw [Project.find?_eq_find?_openFiles, Project.find?_eq_find?_openFiles,
    Project.openFiles_map hf.isFile, List.find?_map, hmatches]

theorem follow_map (p : Project) (path specifier : String) :
    Project.follow (p.map f) path specifier = p.follow path specifier := by
  simp only [Project.follow, hf.find?_map]
  cases p.find? (Specifier.target specifier path) with
  | none => rfl
  | some n => simp only [Option.map_some, hf.name, hf.source, hf.path]

/-- The imports of a node lead where they led before the change. -/
theorem followAll_map (p : Project) (n : Node) :
    Project.followAll (p.map f) (f n) = p.followAll n := by
  unfold Project.followAll
  rw [hf.relativeSpecifiers, hf.path]
  exact List.map_congr_left fun specifier _ => hf.follow_map p n.path.shown specifier

theorem searchFault?_map (p : Project) (path : String) :
    Project.searchFault? (p.map f) path = p.searchFault? path := by
  have hstops : (fun n : Node => !n.path.isText || n.matchesPath path) ∘ f =
      fun n => !n.path.isText || n.matchesPath path := by
    funext n
    simp only [Function.comp, hf.path, hf.matchesPath]
  unfold Project.searchFault?
  rw [Project.files_map hf.isFile, List.find?_map, hstops]
  cases p.files.find? fun n => !n.path.isText || n.matchesPath path with
  | none => rfl
  | some n => simp only [Option.map_some, hf.path]

theorem importFault?_map (p : Project) : Project.importFault? (p.map f) = p.importFault? := by
  have hfault : Project.followFault? (p.map f) ∘ f = p.followFault? := by
    funext n
    simp only [Function.comp, Project.followFault?, hf.relativeSpecifiers, hf.path,
      hf.searchFault?_map]
  unfold Project.importFault?
  rw [Project.parsedFiles_map hf.isFile hf.source, List.findSome?_map, hfault]

theorem functionIndex_map (files : List Node) (name : String) :
    ((functionIndex (files.map f)).get? name).isSome =
      ((functionIndex files).get? name).isSome := by
  have hnames : ∀ n, (f n).declarations.map (·.1) = n.declarations.map (·.1) := by
    intro n
    unfold Node.declarations
    rw [hf.source]
    cases n.source <;> simp
  rw [Bool.eq_iff_iff, Register.isSome_get?_iff, Register.isSome_get?_iff]
  unfold functionIndex
  rw [Register.mem_keys_ofList, Register.mem_keys_ofList, List.map_flatMap, List.map_flatMap,
    List.flatMap_map]
  simp only [hnames]

/-- Files depend on each other as they did before the change. -/
theorem dependencies_map (files : List Node) :
    Dependency.ofFiles (files.map f) = Dependency.ofFiles files := by
  have hcalls : ∀ n, (f n).topLevelCalls = n.topLevelCalls := by
    intro n
    unfold Node.topLevelCalls
    rw [hf.source]
  unfold Dependency.ofFiles
  simp only [List.flatMap_map, hcalls, hf.path, hf.functionIndex_map]

end Node.Unseen

/-! ## Nodes without what linking gives them -/

namespace Node

/-- The node without the imports that were found for it. What was not read keeps its imports. -/
def unlinked (n : Node) : Node := if n.isParsed then n.bare else n

theorem unseen_bare : Unseen bare := ⟨fun _ => rfl, fun _ => rfl, fun _ => rfl, fun _ => rfl⟩

theorem bare_unlinked (n : Node) : n.unlinked.bare = n.bare := by
  unfold unlinked
  split <;> rfl

end Node

namespace Project

/-- The projects differ in the imports of files that were read only. -/
def SameButLinks (p q : Project) : Prop := p.map Node.unlinked = q.map Node.unlinked

theorem SameButLinks.sameButImports {p q : Project} (h : p.SameButLinks q) :
    p.SameButImports q := by
  have hbare := congrArg (Tree.map Node.bare) h
  simp only [Tree.map_map, Node.bare_unlinked] at hbare
  exact hbare

theorem followAll_congr {p q : Project} (h : q.SameButImports p) (n : Node) :
    q.followAll n = p.followAll n := by
  rw [← Node.unseen_bare.followAll_map q n, h, Node.unseen_bare.followAll_map p n]

theorem importFault?_congr {p q : Project} (h : q.SameButImports p) :
    q.importFault? = p.importFault? := by
  rw [← Node.unseen_bare.importFault?_map q, h, Node.unseen_bare.importFault?_map p]

/-- It does not matter which imports are there when a node is linked. -/
theorem resolveImports_congr {p q : Project} (h : q.SameButImports p) :
    q.resolveImports = p.resolveImports := by
  funext n
  unfold resolveImports
  rw [followAll_congr h]

theorem unseen_resolveImports (p : Project) : Node.Unseen p.resolveImports where
  kind n := by unfold resolveImports; split <;> rfl
  name n := by unfold resolveImports; split <;> rfl
  path n := p.path_resolveImports n
  source n := p.source_resolveImports n

theorem resolveImports_unlinked (p : Project) (n : Node) :
    p.resolveImports n.unlinked = p.resolveImports n := by
  unfold Node.unlinked
  split
  · rename_i hparsed
    have hbare : n.bare.isParsed = true := hparsed
    unfold resolveImports
    rw [if_pos hparsed, if_pos hbare]
    rfl
  · rfl

theorem unlinked_resolveImports (p : Project) (n : Node) :
    (p.resolveImports n).unlinked = n.unlinked := by
  unfold resolveImports
  split
  · rename_i hparsed
    have hlinked : { n with imports := (p.followAll n).filterMap ImportResult.path? }.isParsed =
        true := hparsed
    unfold Node.unlinked
    rw [if_pos hparsed, if_pos hlinked]
    rfl
  · rfl

/-- Linking a node once more changes nothing. -/
theorem resolveImports_resolveImports (p : Project) (n : Node) :
    p.resolveImports (p.resolveImports n) = p.resolveImports n := by
  rw [← resolveImports_unlinked, unlinked_resolveImports, resolveImports_unlinked]

theorem sameButLinks_importGraph (p : Project) : p.importGraph.SameButLinks p := by
  unfold SameButLinks importGraph
  rw [Tree.map_map]
  simp only [unlinked_resolveImports]

theorem importGraph_congr {p q : Project} (h : q.SameButLinks p) :
    q.importGraph = p.importGraph := by
  have hlink : ∀ r : Project,
      r.map p.resolveImports = (r.map Node.unlinked).map p.resolveImports := by
    intro r
    simp only [Tree.map_map, resolveImports_unlinked]
  unfold importGraph
  rw [resolveImports_congr h.sameButImports, hlink q, h, ← hlink p]

end Project

/-! ## Trees with numbered nodes -/

namespace Tree

variable {α β γ : Type}

mutual

/-- Changes every label by the place of its node in reading order, where the top has the place
`k`. -/
def mapFrom (f : Nat → α → β) (k : Nat) : Tree α → Tree β
  | node a ts => node (f k a) (mapAllFrom f (k + 1) ts)

/-- `mapFrom` on several trees, one after the other. -/
def mapAllFrom (f : Nat → α → β) (k : Nat) : List (Tree α) → List (Tree β)
  | [] => []
  | t :: ts => t.mapFrom f k :: mapAllFrom f (k + t.size) ts

end

mutual

theorem size_mapFrom (f : Nat → α → β) (k : Nat) : (t : Tree α) → (t.mapFrom f k).size = t.size
  | node a ts => by simp only [mapFrom, size, sizeAll_mapAllFrom f (k + 1) ts]

theorem sizeAll_mapAllFrom (f : Nat → α → β) (k : Nat) : (ts : List (Tree α)) →
    sizeAll (mapAllFrom f k ts) = sizeAll ts
  | [] => rfl
  | t :: ts => by
    simp only [mapAllFrom, sizeAll, size_mapFrom f k t, sizeAll_mapAllFrom f (k + t.size) ts]

end

mutual

theorem mapFrom_mapFrom (f : Nat → α → β) (g : Nat → β → γ) (k : Nat) : (t : Tree α) →
    (t.mapFrom f k).mapFrom g k = t.mapFrom (fun i a => g i (f i a)) k
  | node a ts => by simp only [mapFrom, mapAllFrom_mapAllFrom f g (k + 1) ts]

theorem mapAllFrom_mapAllFrom (f : Nat → α → β) (g : Nat → β → γ) (k : Nat) :
    (ts : List (Tree α)) →
      mapAllFrom g k (mapAllFrom f k ts) = mapAllFrom (fun i a => g i (f i a)) k ts
  | [] => rfl
  | t :: ts => by
    simp only [mapAllFrom, size_mapFrom, mapFrom_mapFrom f g k t,
      mapAllFrom_mapAllFrom f g (k + t.size) ts]

end

mutual

theorem mapFrom_const (f : α → β) (k : Nat) : (t : Tree α) → t.mapFrom (fun _ => f) k = t.map f
  | node a ts => by simp only [mapFrom, map, mapAllFrom_const f (k + 1) ts]

theorem mapAllFrom_const (f : α → β) (k : Nat) : (ts : List (Tree α)) →
    mapAllFrom (fun _ => f) k ts = mapAll f ts
  | [] => rfl
  | t :: ts => by
    simp only [mapAllFrom, mapAll, mapFrom_const f k t, mapAllFrom_const f (k + t.size) ts]

end

mutual

theorem map_id : (t : Tree α) → t.map (fun a => a) = t
  | node a ts => by simp only [map, mapAll_id ts]

theorem mapAll_id : (ts : List (Tree α)) → mapAll (fun a => a) ts = ts
  | [] => rfl
  | t :: ts => by simp only [mapAll, map_id t, mapAll_id ts]

end

mutual

theorem length_preorder : (t : Tree α) → t.preorder.length = t.size
  | node a ts => by
    simp only [preorder, size, List.length_cons, length_preorderAll ts, Nat.add_comm]

theorem length_preorderAll : (ts : List (Tree α)) → (preorderAll ts).length = sizeAll ts
  | [] => rfl
  | t :: ts => by
    simp only [preorderAll, sizeAll, List.length_append, length_preorder t, length_preorderAll ts]

end

mutual

/-- Only what happens at the places of the tree matters. -/
theorem mapFrom_congr {f g : Nat → α → β} (k : Nat) : (t : Tree α) →
    (∀ i u, t.preorder[i]? = some u → f (k + i) u.label = g (k + i) u.label) →
      t.mapFrom f k = t.mapFrom g k
  | node a ts, h => by
    have htop := h 0 (node a ts) rfl
    have hbelow : ∀ i u, (preorderAll ts)[i]? = some u →
        f (k + 1 + i) u.label = g (k + 1 + i) u.label := by
      intro i u hu
      have hplace := h (i + 1) u hu
      rw [Nat.add_comm i 1, ← Nat.add_assoc] at hplace
      exact hplace
    simp only [Nat.add_zero, label] at htop
    simp only [mapFrom, htop, mapAllFrom_congr (k + 1) ts hbelow]

theorem mapAllFrom_congr {f g : Nat → α → β} (k : Nat) : (ts : List (Tree α)) →
    (∀ i u, (preorderAll ts)[i]? = some u → f (k + i) u.label = g (k + i) u.label) →
      mapAllFrom f k ts = mapAllFrom g k ts
  | [], _ => rfl
  | t :: ts, h => by
    have hfirst : ∀ i u, t.preorder[i]? = some u → f (k + i) u.label = g (k + i) u.label := by
      intro i u hu
      apply h
      rw [preorderAll, List.getElem?_append_left (List.getElem?_eq_some_iff.1 hu).1]
      exact hu
    have hrest : ∀ i u, (preorderAll ts)[i]? = some u →
        f (k + t.size + i) u.label = g (k + t.size + i) u.label := by
      intro i u hu
      rw [Nat.add_assoc]
      apply h
      rw [preorderAll, List.getElem?_append_right (by rw [length_preorder]; omega),
        length_preorder, Nat.add_sub_cancel_left]
      exact hu
    simp only [mapAllFrom, mapFrom_congr k t hfirst, mapAllFrom_congr (k + t.size) ts hrest]

end

end Tree

/-! ## Linking in place -/

namespace Project

/-- Links the node at one place, and looks its imports up in the project as it is now. -/
def relink (p : Project) (place : Nat) : Project :=
  p.mapFrom (fun i n => if i = place then p.resolveImports n else n) 0

/-- The project after some places were linked. -/
def linkedAt (p : Project) (places : List Nat) : Project :=
  p.mapFrom (fun i n => if i ∈ places then p.resolveImports n else n) 0

theorem linkedAt_nil (p : Project) : p.linkedAt [] = p := by
  unfold linkedAt
  simp only [List.not_mem_nil, if_false]
  rw [Tree.mapFrom_const, Tree.map_id]

theorem sameButImports_linkedAt (p : Project) (places : List Nat) :
    (p.linkedAt places).SameButImports p := by
  have hbare : ∀ i n, Node.bare (if i ∈ places then p.resolveImports n else n) = n.bare := by
    intro i n
    split
    · exact p.resolveImports_bare n
    · rfl
  unfold SameButImports linkedAt
  rw [← Tree.mapFrom_const Node.bare 0, Tree.mapFrom_mapFrom]
  simp only [hbare]
  rw [Tree.mapFrom_const]

/-- One turn of linking in place: what is linked already does not change what the next node
finds. -/
theorem relink_linkedAt (p : Project) (places : List Nat) (place : Nat) :
    (p.linkedAt places).relink place = p.linkedAt (place :: places) := by
  unfold relink
  rw [resolveImports_congr (p.sameButImports_linkedAt places)]
  unfold linkedAt
  rw [Tree.mapFrom_mapFrom]
  congr 1
  funext i n
  by_cases hplace : i = place
  · subst hplace
    by_cases hmem : i ∈ places
    · simp [hmem, resolveImports_resolveImports]
    · simp [hmem]
  · simp [hplace]

theorem foldl_relink (p : Project) (order places : List Nat) :
    order.foldl relink (p.linkedAt places) = p.linkedAt (order.reverse ++ places) := by
  induction order generalizing places with
  | nil => rfl
  | cons place order ih =>
    rw [List.foldl_cons, relink_linkedAt, ih, List.reverse_cons, List.append_assoc]
    rfl

/-- Where no place of a file that was read is left out, the whole project is linked. -/
theorem linkedAt_eq_importGraph {p : Project} {places : List Nat}
    (h : ∀ i n, p.nodes[i]? = some n → n.isParsed = true → i ∈ places) :
    p.linkedAt places = p.importGraph := by
  unfold linkedAt importGraph
  rw [← Tree.mapFrom_const p.resolveImports 0]
  apply Tree.mapFrom_congr
  intro i u hu
  rw [Nat.zero_add]
  by_cases hmem : i ∈ places
  · rw [if_pos hmem]
  · have hnode : p.nodes[i]? = some u.label := by
      unfold nodes
      rw [List.getElem?_map, hu]
      rfl
    have hparsed : u.label.isParsed = false := by
      rw [← Bool.not_eq_true]
      exact fun hparsed => hmem (h i u.label hnode hparsed)
    rw [if_neg hmem]
    unfold resolveImports
    simp [hparsed]

/-- Linking changes nothing but the imports of files that were read, and no imports that were there
before have a part in the new ones. So it makes no difference to link again, in what order the
files are linked in place, or whether dependencies are asked for before or after. -/
theorem importGraph_relinked (p : Project) :
    p.importGraph.SameButLinks p ∧
      (∀ q : Project, q.SameButLinks p →
        q.importGraph = p.importGraph ∧ q.importFault? = p.importFault?) ∧
      p.importGraph.importGraph = p.importGraph ∧
      Dependency.among [p.importGraph] = Dependency.among [p] ∧
      ∀ order : List Nat,
        (∀ i n, p.nodes[i]? = some n → n.isParsed = true → i ∈ order) →
          order.foldl relink p = p.importGraph := by
  refine ⟨p.sameButLinks_importGraph, ?_, importGraph_congr p.sameButLinks_importGraph, ?_, ?_⟩
  · intro q hq
    exact ⟨importGraph_congr hq, importFault?_congr hq.sameButImports⟩
  · unfold Dependency.among parsedFilesOf
    rw [List.flatMap_singleton, List.flatMap_singleton, parsedFiles_importGraph,
      p.unseen_resolveImports.dependencies_map]
  · intro order horder
    have hall : ∀ i n, p.nodes[i]? = some n → n.isParsed = true → i ∈ order.reverse ++ [] := by
      intro i n hnode hparsed
      simpa using horder i n hnode hparsed
    have hrun := p.foldl_relink order []
    rw [linkedAt_nil] at hrun
    rw [hrun, linkedAt_eq_importGraph hall]

end Project

end CodeAtlas
