-- What a disk holds, said flat: what stands at which path of names. A walk below a folder finds
-- what stands there, and two disks that hold the same are served alike, in whatever order their
-- folders are kept.
import CodeAtlas.Proofs.Disk.Listing
import CodeAtlas.Proofs.Register

namespace CodeAtlas

namespace DiskItem

/-- What lies under some names, one folder after the other. -/
def below? : List String → DiskItem → Option DiskItem
  | [], item => some item
  | name :: rest, .folder entries => (entries.lookup name).bind (below? rest)
  | _ :: _, _ => none

/-- The item without what lies in it. -/
def surface : DiskItem → DiskItem
  | .folder _ => .folder []
  | item => item

/-- The same stands under every path of names. -/
def Same (item item' : DiskItem) : Prop :=
  ∀ path, (item.below? path).map surface = (item'.below? path).map surface

theorem below?_folder (name : String) (rest : List String) (d : Disk) :
    below? (name :: rest) (.folder d) = (d.lookup name).bind (below? rest) := rfl

theorem below?_append (path rest : List String) (item : DiskItem) :
    item.below? (path ++ rest) = (item.below? path).bind (below? rest) := by
  induction path generalizing item with
  | nil => rfl
  | cons name path ih =>
    cases item with
    | file bytes => rfl
    | deadLink => rfl
    | folder d =>
      rw [List.cons_append, below?_folder, below?_folder, Option.bind_assoc]
      exact congrArg (Option.bind (d.lookup name)) (funext ih)

theorem Same.symm {item item' : DiskItem} (h : Same item item') : Same item' item :=
  fun path => (h path).symm

theorem Same.surface_eq {item item' : DiskItem} (h : Same item item') :
    item.surface = item'.surface := by
  simpa [below?] using h []

end DiskItem

namespace Disk

open DiskItem (Same below? surface)

/-- What stands at a path of names: a file with its bytes, a link, or a folder. -/
def content? (d : Disk) (path : List String) : Option DiskItem :=
  ((DiskItem.folder d).below? path).map surface

theorem content?_cons (d : Disk) (name : String) (rest : List String) :
    d.content? (name :: rest) =
      (d.lookup name).bind fun item => (item.below? rest).map surface := by
  unfold content?
  rw [DiskItem.below?_folder, Option.map_bind]
  rfl

theorem content?_folder {d inside : Disk} {name : String}
    (hlookup : d.lookup name = some (.folder inside)) (rest : List String) :
    d.content? (name :: rest) = inside.content? rest := by
  rw [content?_cons, hlookup]
  rfl

/-- A name that can be asked for: it has no null byte, and not too many bytes. -/
def Fits (name : String) : Prop := '\x00' ∉ name.toList ∧ name.utf8ByteSize ≤ maxComponent

instance (name : String) : Decidable (Fits name) := inferInstanceAs (Decidable (_ ∧ _))

mutual

/-- All names in a folder and in the folders below it can be asked for. -/
def NamesFit : Disk → Prop
  | [] => True
  | (name, item) :: rest => Fits name ∧ ItemNamesFit item ∧ NamesFit rest

/-- All names in an item can be asked for. -/
def ItemNamesFit : DiskItem → Prop
  | .folder entries => NamesFit entries
  | .file _ => True
  | .deadLink => True

end

theorem itemNamesFit_folder (d : Disk) : ItemNamesFit (.folder d) ↔ d.NamesFit := Iff.rfl

theorem namesFit_iff (d : Disk) : d.NamesFit ↔ ∀ x ∈ d, Fits x.1 ∧ ItemNamesFit x.2 := by
  induction d with
  | nil => simp [NamesFit]
  | cons x rest ih =>
    obtain ⟨name, item⟩ := x
    simp only [NamesFit, ih, List.forall_mem_cons, and_assoc]

/-! ## Names -/

theorem NamesFit.of_lookup {d : Disk} (h : d.NamesFit) {name : String} {item : DiskItem}
    (hlookup : d.lookup name = some item) : Fits name ∧ ItemNamesFit item :=
  (namesFit_iff d).1 h _ (mem_of_lookup hlookup)

/-- What holds of the names in a folder, and passes from the folder to what lies in it, holds of
every path below and of what stands there. -/
theorem holds_of_below? {P : DiskItem → Prop} {Q : String → Prop}
    (hinside : ∀ (d : Disk) name item, P (.folder d) → d.lookup name = some item → Q name ∧ P item)
    {path : List String} {item found : DiskItem} (hitem : P item)
    (h : item.below? path = some found) : (∀ name ∈ path, Q name) ∧ P found := by
  induction path generalizing item with
  | nil =>
    cases h
    exact ⟨by simp, hitem⟩
  | cons name rest ih =>
    cases item with
    | file bytes => cases h
    | deadLink => cases h
    | folder d =>
      obtain ⟨next, hlookup, hnext⟩ := Option.bind_eq_some_iff.1 h
      obtain ⟨hname, hitem⟩ := hinside d name next hitem hlookup
      obtain ⟨hrest, hfound⟩ := ih hitem hnext
      exact ⟨List.forall_mem_cons.2 ⟨hname, hrest⟩, hfound⟩

theorem WellFormed.of_below? {d : Disk} (hd : d.WellFormed) {path : List String}
    {found : DiskItem} (h : (DiskItem.folder d).below? path = some found) :
    AreNames path ∧ ItemWellFormed found := by
  refine holds_of_below? (P := ItemWellFormed) ?_ ((itemWellFormed_folder d).2 hd) h
  intro e name item he hlookup
  have he : WellFormed e := (itemWellFormed_folder e).1 he
  exact ⟨he.isName (mem_of_lookup hlookup), he.of_lookup hlookup⟩

theorem NamesFit.of_below? {d : Disk} (hd : d.NamesFit) {path : List String} {found : DiskItem}
    (h : (DiskItem.folder d).below? path = some found) :
    (∀ name ∈ path, Fits name) ∧ ItemNamesFit found := by
  refine holds_of_below? (P := ItemNamesFit) ?_ ((itemNamesFit_folder d).2 hd) h
  intro e name item he hlookup
  exact NamesFit.of_lookup he hlookup

theorem NamesFit.of_at? {d : Disk} (hd : d.NamesFit) {path : List String} {found : DiskItem}
    (h : d.at? path = .ok found) : ItemNamesFit found :=
  holds_of_at? (P := ItemNamesFit) trivial
    (fun _ _ _ hd hlookup => (NamesFit.of_lookup hd hlookup).2) hd h

/-! ## Walks below a folder -/

/-- A step that does not lead up leads to what has its name. -/
theorem walkFrom_step {step : String} (hup : step ≠ "..") (hsize : step.utf8ByteSize ≤ maxComponent)
    (above : List Disk) (d : Disk) (rest : List String) :
    walkFrom above (.folder d) (step :: rest) =
      match d.lookup step with
      | none => .error .absent
      | some next => walkFrom (d :: above) next rest := by
  conv => lhs; unfold walkFrom
  cases hlookup : d.lookup step <;> simp only [if_neg hup, if_neg (Nat.not_lt.2 hsize), hlookup]

/-- A step up leads to the folder above, and from the top to an empty one. -/
theorem walkFrom_up (above : List Disk) (d : Disk) (rest : List String) :
    walkFrom above (.folder d) (".." :: rest) =
      walkFrom above.tail (.folder (above.headD [])) rest := by
  cases above <;> rfl

theorem walkFrom_long {step : String} (hup : step ≠ "..") (hsize : maxComponent < step.utf8ByteSize)
    (above : List Disk) (d : Disk) (rest : List String) :
    walkFrom above (.folder d) (step :: rest) = .error .tooLong := by
  unfold walkFrom
  simp [hup, hsize]

theorem walkFrom_append {above : List Disk} {item found : DiskItem} {path : List String}
    (h : walkFrom above item path = .ok found) :
    ∃ higher, ∀ rest, walkFrom above item (path ++ rest) = walkFrom higher found rest := by
  induction path generalizing above item with
  | nil =>
    cases item with
    | deadLink => cases h
    | file bytes =>
      cases h
      exact ⟨above, fun _ => rfl⟩
    | folder d =>
      cases h
      exact ⟨above, fun _ => rfl⟩
  | cons step path ih =>
    cases item with
    | deadLink => cases h
    | file bytes => cases h
    | folder d =>
      by_cases hup : step = ".."
      · subst hup
        rw [walkFrom_up] at h
        obtain ⟨higher, hrest⟩ := ih h
        refine ⟨higher, fun rest => ?_⟩
        rw [List.cons_append, walkFrom_up, hrest]
      · by_cases hsize : step.utf8ByteSize ≤ maxComponent
        · rw [walkFrom_step hup hsize] at h
          cases hlookup : d.lookup step with
          | none => simp [hlookup] at h
          | some next =>
            rw [hlookup] at h
            obtain ⟨higher, hrest⟩ := ih h
            refine ⟨higher, fun rest => ?_⟩
            rw [← hrest rest, List.cons_append, walkFrom_step hup hsize, hlookup]
        · rw [walkFrom_long hup (Nat.not_le.1 hsize)] at h
          cases h

/-- Along names that can be asked for, a walk finds what stands there. -/
theorem walkFrom_eq_ok_iff {path : List String} (hnames : AreNames path)
    (hfit : ∀ name ∈ path, Fits name) (above : List Disk) (item found : DiskItem) :
    walkFrom above item path = .ok found ↔ item.below? path = some found ∧ found ≠ .deadLink := by
  induction path generalizing above item with
  | nil =>
    cases item with
    | deadLink => simp [walkFrom, below?, eq_comm]
    | file bytes =>
      simp only [walkFrom, below?, Except.ok.injEq, Option.some.injEq]
      constructor
      · rintro rfl
        exact ⟨rfl, by simp⟩
      · exact And.left
    | folder d =>
      simp only [walkFrom, below?, Except.ok.injEq, Option.some.injEq]
      constructor
      · rintro rfl
        exact ⟨rfl, by simp⟩
      · exact And.left
  | cons name rest ih =>
    obtain ⟨hname, hrest⟩ := List.forall_mem_cons.1 hnames
    obtain ⟨hfits, hfit⟩ := List.forall_mem_cons.1 hfit
    cases item with
    | file bytes => simp [walkFrom, below?]
    | deadLink => simp [walkFrom, below?]
    | folder d =>
      rw [walkFrom_step hname.2 hfits.2, DiskItem.below?_folder]
      cases hlookup : d.lookup name with
      | none => simp
      | some next => simpa using ih hrest hfit (d :: above) next

theorem at?_append_eq_ok_iff {disk table : Disk} {root path : List String}
    (hroot : disk.at? root = .ok (.folder table)) (hnames : AreNames path)
    (hfit : ∀ name ∈ path, Fits name) (found : DiskItem) :
    disk.at? (root ++ path) = .ok found ↔ isTooLong (root ++ path) = false ∧
      (DiskItem.folder table).below? path = some found ∧ found ≠ .deadLink := by
  unfold at? at hroot ⊢
  split at hroot
  · cases hroot
  · rename_i hnull
    split at hroot
    · cases hroot
    · obtain ⟨higher, hwalk⟩ := walkFrom_append hroot
      have hnull' : ¬ (root ++ path).any (fun step => step.toList.contains '\x00') = true := by
        rw [List.any_append, Bool.or_eq_true, not_or]
        refine ⟨hnull, ?_⟩
        simp only [List.any_eq_true, List.contains_iff_mem, not_exists, not_and]
        exact fun name hname => (hfit name hname).1
      rw [if_neg hnull', hwalk]
      cases isTooLong (root ++ path) with
      | true => simp
      | false => simpa using walkFrom_eq_ok_iff hnames hfit higher (.folder table) found

/-! ## Disks that hold the same -/

/-- Folders that hold the same have the same under a name. -/
theorem same_of_lookup {d d' : Disk} (h : Same (.folder d) (.folder d')) {name : String}
    {item : DiskItem} (hlookup : d.lookup name = some item) :
    ∃ item', d'.lookup name = some item' ∧ Same item item' := by
  have hcontent : ∀ rest, (item.below? rest).map surface =
      (d'.lookup name).bind fun item' => (item'.below? rest).map surface := by
    intro rest
    have hname := h (name :: rest)
    rw [DiskItem.below?_folder, DiskItem.below?_folder, hlookup, Option.map_bind, Option.map_bind]
      at hname
    exact hname
  cases hlookup' : d'.lookup name with
  | none =>
    have hnone := hcontent []
    rw [hlookup'] at hnone
    cases hnone
  | some item' =>
    rw [hlookup'] at hcontent
    exact ⟨item', rfl, hcontent⟩

theorem lookup_eq_none_of_same {d d' : Disk} (h : Same (.folder d) (.folder d')) {name : String}
    (hlookup : d.lookup name = none) : d'.lookup name = none := by
  cases hlookup' : d'.lookup name with
  | none => rfl
  | some item =>
    obtain ⟨item', hsome, -⟩ := same_of_lookup (DiskItem.Same.symm h) hlookup'
    cases hlookup.symm.trans hsome

/-- A walk finds the same on disks that hold the same, or ends for the same reason. -/
theorem walkFrom_same {above above' : List Disk} {item item' : DiskItem} (path : List String)
    (habove : List.Forall₂ (fun d d' => Same (.folder d) (.folder d')) above above')
    (hitem : Same item item') :
    (∃ found found', walkFrom above item path = .ok found ∧
        walkFrom above' item' path = .ok found' ∧ Same found found') ∨
      ∃ stop, walkFrom above item path = .error stop ∧
        walkFrom above' item' path = .error stop := by
  induction path generalizing above above' item item' with
  | nil =>
    have hsurface := hitem.surface_eq
    cases item <;> cases item' <;> cases hsurface
    · exact .inl ⟨_, _, rfl, rfl, hitem⟩
    · exact .inr ⟨.absent, rfl, rfl⟩
    · exact .inl ⟨_, _, rfl, rfl, hitem⟩
  | cons step rest ih =>
    have hsurface := hitem.surface_eq
    cases item <;> cases item' <;> cases hsurface
    · exact .inr ⟨.notFolder, rfl, rfl⟩
    · exact .inr ⟨.absent, rfl, rfl⟩
    · rename_i d d'
      by_cases hup : step = ".."
      · subst hup
        cases habove with
        | nil => exact ih .nil fun _ => rfl
        | cons hparent hhigher => exact ih hhigher hparent
      · by_cases hsize : step.utf8ByteSize ≤ maxComponent
        · rw [walkFrom_step hup hsize, walkFrom_step hup hsize]
          cases hlookup : d.lookup step with
          | none =>
            rw [lookup_eq_none_of_same hitem hlookup]
            exact .inr ⟨.absent, rfl, rfl⟩
          | some next =>
            obtain ⟨next', hlookup', hnext⟩ := same_of_lookup hitem hlookup
            rw [hlookup']
            exact ih (.cons hitem habove) hnext
        · have hlong := Nat.not_le.1 hsize
          exact .inr ⟨.tooLong, walkFrom_long hup hlong _ _ _, walkFrom_long hup hlong _ _ _⟩

theorem at?_same {d d' : Disk} (h : Same (.folder d) (.folder d')) (path : List String) :
    (∃ found found', d.at? path = .ok found ∧ d'.at? path = .ok found' ∧ Same found found') ∨
      ∃ stop, d.at? path = .error stop ∧ d'.at? path = .error stop := by
  unfold at?
  split
  · exact .inr ⟨.nullByte, rfl, rfl⟩
  · split
    · exact .inr ⟨.tooLong, rfl, rfl⟩
    · exact walkFrom_same path .nil h

/-- A folder with all that is seen of it from above. -/
def surfaces (d : Disk) : Disk := d.adjust fun _ item => some item.surface

theorem mem_surfaces_iff {d : Disk} (h : (d.map (·.1)).Nodup) (name : String) (item : DiskItem) :
    (name, item) ∈ d.surfaces ↔ d.content? [name] = some item := by
  unfold surfaces
  rw [← Register.lookup_eq_some_iff (nodup_adjust _ h), lookup_adjust _ h, content?_cons]
  rfl

/-- Folders that hold the same are in order alike. -/
theorem sorted_surfaces_eq {d d' : Disk} (hd : (d.map (·.1)).Nodup) (hd' : (d'.map (·.1)).Nodup)
    (h : Same (.folder d) (.folder d')) : d.sorted.surfaces = d'.sorted.surfaces := by
  have hnodup : d.surfaces.Nodup := (nodup_adjust _ hd).of_map
  have hnodup' : d'.surfaces.Nodup := (nodup_adjust _ hd').of_map
  have hperm : d'.surfaces.Perm d.surfaces := by
    refine (List.perm_ext_iff_of_nodup hnodup' hnodup).2 ?_
    rintro ⟨name, item⟩
    rw [mem_surfaces_iff hd, mem_surfaces_iff hd', content?, content?, h [name]]
  have hsorted : d.surfaces.sorted = d'.surfaces.sorted :=
    sorted_eq_of_perm (nodup_adjust _ hd) ((sorted_perm _).trans hperm) (pairwise_sorted _)
  rwa [surfaces, surfaces, sorted_adjust _ hd, sorted_adjust _ hd'] at hsorted

theorem itemDepth_lt_depth {d : Disk} {name : String} {item : DiskItem} (h : (name, item) ∈ d) :
    itemDepth item < d.depth := by
  induction d with
  | nil => cases h
  | cons x rest ih =>
    obtain ⟨other, old⟩ := x
    unfold depth
    rcases List.mem_cons.1 h with heq | h
    · cases heq
      exact Nat.le_max_left _ _
    · exact Nat.lt_of_lt_of_le (ih h) (Nat.le_max_right _ _)

/-- No folder that a walk leads to is deeper than the disk. -/
theorem itemDepth_le_of_at? {d : Disk} {path : List String} {found : DiskItem}
    (h : d.at? path = .ok found) : itemDepth found ≤ d.depth := by
  refine holds_of_at? (P := fun item => itemDepth item ≤ d.depth) (one_le_depth d) ?_
    (Nat.le_refl d.depth) h
  intro e name item he hlookup
  exact Nat.le_trans (Nat.le_of_lt (itemDepth_lt_depth (mem_of_lookup hlookup))) he

mutual

theorem depth_le_of_same : (d d' : Disk) →
    (∀ x ∈ d, ItemWellFormed x.2 ∧ ∃ item', (x.1, item') ∈ d' ∧ Same x.2 item') →
    d.depth ≤ d'.depth
  | [], d', _ => one_le_depth d'
  | (name, item) :: rest, d', h => by
    obtain ⟨⟨hitem, item', hmem, hsame⟩, hrest⟩ := List.forall_mem_cons.1 h
    rw [depth]
    refine Nat.max_le.2 ⟨?_, depth_le_of_same rest d' hrest⟩
    exact Nat.lt_of_le_of_lt (itemDepth_le_of_same item item' hitem hsame) (itemDepth_lt_depth hmem)

theorem itemDepth_le_of_same : (item item' : DiskItem) → ItemWellFormed item → Same item item' →
    itemDepth item ≤ itemDepth item'
  | .file _, _, _, _ => Nat.zero_le _
  | .deadLink, _, _, _ => Nat.zero_le _
  | .folder d, .folder d', hd, h => by
    refine depth_le_of_same d d' ?_
    intro x hx
    have hlookup := (Register.lookup_eq_some_iff (WellFormed.nodup hd) x.1 x.2).2 hx
    obtain ⟨item', hlookup', hsame⟩ := same_of_lookup h hlookup
    exact ⟨WellFormed.of_lookup hd hlookup, item', mem_of_lookup hlookup', hsame⟩
  | .folder _, .file _, _, h => by cases h.surface_eq
  | .folder _, .deadLink, _, h => by cases h.surface_eq

end

end Disk

namespace Provider

open DiskItem (Same)

theorem entryOfItem?_surface (path : List String) (name : String) (item : DiskItem) :
    entryOfItem? path (name, item.surface) = entryOfItem? path (name, item) := by
  cases item <;> rfl

theorem filterMap_surfaces (path : List String) (d : Disk) :
    d.surfaces.filterMap (entryOfItem? path) = d.filterMap (entryOfItem? path) := by
  unfold Disk.surfaces Disk.adjust
  rw [List.filterMap_filterMap]
  exact List.filterMap_congr fun x _ => entryOfItem?_surface path x.1 x.2

theorem map_surfaces (folder : List String) (d : Disk) :
    (d.surfaces.map fun x => folder ++ [x.1]) = d.map fun x => folder ++ [x.1] := by
  unfold Disk.surfaces Disk.adjust
  induction d with
  | nil => rfl
  | cons x rest ih => simp

theorem listFolder_same {d d' : Disk} (hd : d.WellFormed) (hd' : d'.WellFormed)
    (h : Same (.folder d) (.folder d')) (root path : List String) :
    listFolder d root path = listFolder d' root path := by
  unfold listFolder Disk.folder? Disk.find?
  rcases Disk.at?_same h (root ++ path) with ⟨found, found', hat, hat', hsame⟩ | ⟨stop, hat, hat'⟩
  · rw [hat, hat']
    have hsurface := hsame.surface_eq
    cases found <;> cases found' <;> cases hsurface
    · rfl
    · rfl
    · rename_i entries entries'
      have hentries := ((Disk.itemWellFormed_folder _).1 (hd.of_at? hat)).nodup
      have hentries' := ((Disk.itemWellFormed_folder _).1 (hd'.of_at? hat')).nodup
      have hsorted := Disk.sorted_surfaces_eq hentries hentries' hsame
      have hpaths := map_surfaces (root ++ path) (Disk.sorted entries)
      have hlisted := filterMap_surfaces path (Disk.sorted entries)
      rw [hsorted, map_surfaces] at hpaths
      rw [hsorted, filterMap_surfaces] at hlisted
      simp only [Except.map, hpaths, hlisted]
  · rw [hat, hat']

theorem textAt_same {d d' : Disk} (h : Same (.folder d) (.folder d')) (path : List String) :
    textAt d path = textAt d' path := by
  unfold textAt Disk.read
  rcases Disk.at?_same h path with ⟨found, found', hat, hat', hsame⟩ | ⟨stop, hat, hat'⟩
  · rw [hat, hat']
    have hsurface := hsame.surface_eq
    cases found <;> cases found' <;> cases hsurface <;> rfl
  · rw [hat, hat']

/-- Disks that hold the same are served alike. -/
theorem ofDisk_same {d d' : Disk} (hd : d.WellFormed) (hd' : d'.WellFormed)
    (h : ∀ path, d.content? path = d'.content? path) (root : List String) :
    ofDisk d root = ofDisk d' root := by
  have hlist : listFolder d root = listFolder d' root := funext (listFolder_same hd hd' h root)
  have htext : textAt d = textAt d' := funext (textAt_same h)
  have hdepth : d.depth = d'.depth :=
    Nat.le_antisymm (Disk.itemDepth_le_of_same (.folder d) (.folder d') hd h)
      (Disk.itemDepth_le_of_same (.folder d') (.folder d) hd' (Same.symm h))
  unfold ofDisk
  rw [hlist, htext, hdepth]

end Provider

end CodeAtlas
