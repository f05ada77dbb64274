-- Disks as file systems have them: in every folder the names are names, and no two are the same.
-- On such a disk a folder is a function from names to items, and its order is that of the names.
import CodeAtlas.Disk
import CodeAtlas.Proofs.Path
import Mathlib.Data.List.Nodup

namespace CodeAtlas.Disk

/-- A name that something in a folder can have. -/
def IsName (name : String) : Prop := Path.IsComponent name ∧ name ≠ ".."

instance (name : String) : Decidable (IsName name) := inferInstanceAs (Decidable (_ ∧ _))

def AreNames (names : List String) : Prop := ∀ name ∈ names, IsName name

theorem areNames_nil : AreNames [] := by simp [AreNames]

theorem IsName.cons {name : String} {names : List String} (h : IsName name)
    (hnames : AreNames names) : AreNames (name :: names) :=
  List.forall_mem_cons.2 ⟨h, hnames⟩

theorem AreNames.append {names names' : List String} (h : AreNames names) (h' : AreNames names') :
    AreNames (names ++ names') := by
  intro name hname
  rcases List.mem_append.1 hname with hname | hname
  · exact h name hname
  · exact h' name hname

theorem AreNames.areComponents {names : List String} (h : AreNames names) :
    Path.AreComponents names :=
  fun name hname => (h name hname).1

theorem IsName.singleton {name : String} (h : IsName name) : AreNames [name] := h.cons areNames_nil

mutual

/-- All names in a folder, and in the folders below it, are names, and no folder has one twice. -/
def WellFormed : Disk → Prop
  | [] => True
  | (name, item) :: rest =>
    IsName name ∧ name ∉ rest.map (·.1) ∧ ItemWellFormed item ∧ WellFormed rest

/-- What is in the item is well formed. -/
def ItemWellFormed : DiskItem → Prop
  | .folder entries => WellFormed entries
  | .file _ => True
  | .deadLink => True

end

theorem itemWellFormed_folder (d : Disk) : ItemWellFormed (.folder d) ↔ d.WellFormed := Iff.rfl

theorem wellFormed_iff (d : Disk) :
    d.WellFormed ↔ (d.map (·.1)).Nodup ∧ ∀ e ∈ d, IsName e.1 ∧ ItemWellFormed e.2 := by
  induction d with
  | nil => simp [WellFormed]
  | cons e rest ih =>
    obtain ⟨name, item⟩ := e
    simp only [WellFormed, ih, List.map_cons, List.nodup_cons, List.forall_mem_cons]
    constructor
    · rintro ⟨hname, hnew, hitem, hnodup, hrest⟩
      exact ⟨⟨hnew, hnodup⟩, ⟨hname, hitem⟩, hrest⟩
    · rintro ⟨⟨hnew, hnodup⟩, ⟨hname, hitem⟩, hrest⟩
      exact ⟨hname, hnew, hitem, hnodup, hrest⟩

theorem WellFormed.nodup {d : Disk} (h : d.WellFormed) : (d.map (·.1)).Nodup :=
  ((wellFormed_iff d).1 h).1

theorem WellFormed.isName {d : Disk} (h : d.WellFormed) {e : String × DiskItem} (he : e ∈ d) :
    IsName e.1 :=
  (((wellFormed_iff d).1 h).2 e he).1

/-! ## Lookup -/

theorem mem_of_lookup {d : Disk} {name : String} {item : DiskItem}
    (h : d.lookup name = some item) : (name, item) ∈ d := by
  obtain ⟨before, after, rfl, -⟩ := List.lookup_eq_some_iff.1 h
  simp

theorem WellFormed.of_lookup {d : Disk} (h : d.WellFormed) {name : String} {item : DiskItem}
    (hlookup : d.lookup name = some item) : ItemWellFormed item :=
  (((wellFormed_iff d).1 h).2 _ (mem_of_lookup hlookup)).2

/-- What holds of an empty folder, and passes from a folder to what lies in it, holds wherever a
walk ends. -/
theorem holds_of_walkFrom {P : DiskItem → Prop} (hempty : P (.folder []))
    (hinside : ∀ (d : Disk) name item, P (.folder d) → d.lookup name = some item → P item)
    {above : List Disk} {item found : DiskItem} {path : List String}
    (habove : ∀ d ∈ above, P (.folder d)) (hitem : P item)
    (h : walkFrom above item path = .ok found) : P found := by
  induction path generalizing above item with
  | nil =>
    cases item with
    | deadLink => cases h
    | file bytes =>
      cases h
      exact hitem
    | folder entries =>
      cases h
      exact hitem
  | cons step rest ih =>
    cases item with
    | deadLink => cases h
    | file bytes => cases h
    | folder entries =>
      unfold walkFrom at h
      dsimp only at h
      split at h
      · cases above with
        | nil => exact ih (by simp) hempty h
        | cons parent higher =>
          obtain ⟨hparent, hhigher⟩ := List.forall_mem_cons.1 habove
          exact ih hhigher hparent h
      · split at h
        · cases h
        · cases hlookup : entries.lookup step with
          | none => simp [hlookup] at h
          | some next =>
            simp only [hlookup] at h
            exact ih (List.forall_mem_cons.2 ⟨hitem, habove⟩) (hinside _ _ _ hitem hlookup) h

theorem holds_of_at? {P : DiskItem → Prop} (hempty : P (.folder []))
    (hinside : ∀ (d : Disk) name item, P (.folder d) → d.lookup name = some item → P item)
    {d : Disk} (hd : P (.folder d)) {path : List String} {found : DiskItem}
    (h : d.at? path = .ok found) : P found := by
  unfold at? at h
  split at h
  · cases h
  · split at h
    · cases h
    · exact holds_of_walkFrom hempty hinside (by simp) hd h

theorem WellFormed.of_at? {d : Disk} (hd : d.WellFormed) {path : List String} {found : DiskItem}
    (h : d.at? path = .ok found) : ItemWellFormed found :=
  holds_of_at? (P := ItemWellFormed) trivial (fun _ _ _ hd => WellFormed.of_lookup hd) hd h

/-! ## Adjusting -/

/-- Each item is kept, changed or dropped, depending on its name. -/
def adjust (keep : String → DiskItem → Option DiskItem) (d : Disk) : Disk :=
  d.filterMap fun e => (keep e.1 e.2).map fun item => (e.1, item)

theorem mem_adjust {keep : String → DiskItem → Option DiskItem} {d : Disk} {e : String × DiskItem}
    (h : e ∈ d.adjust keep) : ∃ item, (e.1, item) ∈ d ∧ keep e.1 item = some e.2 := by
  obtain ⟨⟨name, item⟩, hmem, hsome⟩ := List.mem_filterMap.1 h
  obtain ⟨kept, hkept, rfl⟩ := Option.map_eq_some_iff.1 hsome
  exact ⟨item, hmem, hkept⟩

theorem name_of_kept {keep : String → DiskItem → Option DiskItem} {e e' : String × DiskItem}
    (h : ((keep e.1 e.2).map fun item => (e.1, item)) = some e') : e'.1 = e.1 := by
  obtain ⟨item, -, rfl⟩ := Option.map_eq_some_iff.1 h
  rfl

theorem nodup_adjust (keep : String → DiskItem → Option DiskItem) {d : Disk}
    (h : (d.map (·.1)).Nodup) : ((d.adjust keep).map (·.1)).Nodup := by
  have hpairwise := List.pairwise_map.1 h
  refine List.pairwise_map.2 (hpairwise.filterMap _ ?_)
  intro a a' hne b hb b' hb'
  rw [name_of_kept hb, name_of_kept hb']
  exact hne

theorem WellFormed.adjust {keep : String → DiskItem → Option DiskItem} {d : Disk}
    (hd : d.WellFormed) (hkeep : ∀ name item kept, ItemWellFormed item →
      keep name item = some kept → ItemWellFormed kept) : (d.adjust keep).WellFormed := by
  rw [wellFormed_iff] at hd ⊢
  refine ⟨nodup_adjust keep hd.1, ?_⟩
  intro e he
  obtain ⟨item, hmem, hkept⟩ := mem_adjust he
  obtain ⟨hname, hitem⟩ := hd.2 _ hmem
  exact ⟨hname, hkeep _ _ _ hitem hkept⟩

/-- An adjusted folder has under a name what is kept of what was there. -/
theorem lookup_adjust (keep : String → DiskItem → Option DiskItem) {d : Disk}
    (h : (d.map (·.1)).Nodup) (name : String) :
    (d.adjust keep).lookup name = (d.lookup name).bind (keep name) := by
  induction d with
  | nil => rfl
  | cons e rest ih =>
    obtain ⟨other, item⟩ := e
    rw [List.map_cons, List.nodup_cons] at h
    have hrest := ih h.2
    by_cases hname : name = other
    · subst hname
      -- the name occurs only here, so nothing else is found under it when the item is dropped
      have hnone : (adjust keep rest).lookup name = none := by
        rw [List.lookup_eq_none_iff]
        intro p hp
        obtain ⟨item', hmem, -⟩ := mem_adjust hp
        refine bne_iff_ne.2 fun heq => h.1 ?_
        exact List.mem_map.2 ⟨_, hmem, heq.symm⟩
      cases hkeep : keep name item with
      | none => simpa [adjust, hkeep] using hnone
      | some kept => simp [adjust, hkeep]
    · have hne : (name == other) = false := beq_eq_false_iff_ne.2 hname
      rw [List.lookup_cons, hne, ← hrest]
      cases hkeep : keep other item with
      | none => simp [adjust, hkeep]
      | some kept => simp [adjust, hkeep, List.lookup_cons, hne]

/-! ## The order of names -/

theorem sorted_perm (d : Disk) : d.sorted.Perm d := List.mergeSort_perm _ _

theorem pairwise_sorted (d : Disk) : d.sorted.Pairwise fun a b => a.1 ≤ b.1 := by
  have htrans : ∀ a b c : String × DiskItem,
      decide (a.1 ≤ b.1) = true → decide (b.1 ≤ c.1) = true → decide (a.1 ≤ c.1) = true := by
    intro a b c hab hbc
    exact decide_eq_true (String.le_trans (of_decide_eq_true hab) (of_decide_eq_true hbc))
  have htotal : ∀ a b : String × DiskItem, (decide (a.1 ≤ b.1) || decide (b.1 ≤ a.1)) = true := by
    intro a b
    simpa using String.le_total a.1 b.1
  exact (List.pairwise_mergeSort htrans htotal d).imp of_decide_eq_true

/-- Items that are in order stay where they are. -/
theorem sorted_of_pairwise {d : Disk} (h : d.Pairwise fun a b => a.1 ≤ b.1) : d.sorted = d :=
  List.mergeSort_of_pairwise (h.imp decide_eq_true)

theorem nodup_sorted {d : Disk} (h : (d.map (·.1)).Nodup) : (d.sorted.map (·.1)).Nodup :=
  ((sorted_perm d).map _).nodup_iff.2 h

/-- There is only one order in which distinct names increase. -/
theorem sorted_eq_of_perm {d e : Disk} (hd : (d.map (·.1)).Nodup) (hperm : e.Perm d)
    (he : e.Pairwise fun a b => a.1 ≤ b.1) : d.sorted = e := by
  refine List.Perm.eq_of_pairwise ?_ (pairwise_sorted d) he ((sorted_perm d).trans hperm.symm)
  intro a b ha hb hab hba
  have ha' : a ∈ d := (sorted_perm d).subset ha
  have hb' : b ∈ d := hperm.subset hb
  exact List.inj_on_of_nodup_map hd ha' hb' (String.le_antisymm hab hba)

/-- Adjusting does not disturb the order. -/
theorem sorted_adjust (keep : String → DiskItem → Option DiskItem) {d : Disk}
    (h : (d.map (·.1)).Nodup) : (d.adjust keep).sorted = d.sorted.adjust keep := by
  refine sorted_eq_of_perm (nodup_adjust keep h) ((sorted_perm d).filterMap _) ?_
  refine (pairwise_sorted d).filterMap _ ?_
  intro a a' hle b hb b' hb'
  rw [name_of_kept hb, name_of_kept hb']
  exact hle

end CodeAtlas.Disk
