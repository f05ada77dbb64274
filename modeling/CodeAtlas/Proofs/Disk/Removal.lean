-- Disks with one file removed. A walk along a path still finds what it found before, without the
-- file in it; only a walk to the file itself finds nothing.
import CodeAtlas.Proofs.Disk.WellFormed

namespace CodeAtlas

/-! ## Removing a file -/

/-- The item without the file at a path in it. Nothing is left of the file itself; folders and
links stay. -/
def DiskItem.removeFile : List String → DiskItem → Option DiskItem
  | [], .file _ => none
  | step :: rest, .folder entries =>
    some (.folder (Disk.adjust
      (fun name item => if name = step then item.removeFile rest else some item) entries))
  | _, item => some item

namespace Disk

/-- The disk without the file at a path. -/
def removeFile (d : Disk) : List String → Disk
  | [] => d
  | step :: rest =>
    d.adjust fun name item => if name = step then item.removeFile rest else some item

theorem removeFile_folder (path : List String) (d : Disk) :
    DiskItem.removeFile path (.folder d) = some (.folder (d.removeFile path)) := by
  cases path <;> rfl

theorem adjust_some (d : Disk) : d.adjust (fun _ item => some item) = d := by
  unfold adjust
  exact List.filterMap_some

theorem itemWellFormed_removeFile {path : List String} {item left : DiskItem}
    (hitem : ItemWellFormed item) (h : item.removeFile path = some left) : ItemWellFormed left := by
  induction path generalizing item left with
  | nil =>
    cases item with
    | file bytes => cases h
    | deadLink =>
      cases h
      exact hitem
    | folder entries =>
      cases h
      exact hitem
  | cons step rest ih =>
    cases item with
    | file bytes =>
      cases h
      exact hitem
    | deadLink =>
      cases h
      exact hitem
    | folder entries =>
      cases h
      refine (itemWellFormed_folder _).2 (((itemWellFormed_folder _).1 hitem).adjust ?_)
      intro name item kept hitem hkept
      split at hkept
      · exact ih hitem hkept
      · cases hkept
        exact hitem

theorem WellFormed.removeFile {d : Disk} (hd : d.WellFormed) (path : List String) :
    (d.removeFile path).WellFormed :=
  itemWellFormed_removeFile ((itemWellFormed_folder d).2 hd) (removeFile_folder path d)

/-! ## How deep a disk is -/

theorem one_le_depth (d : Disk) : 1 ≤ d.depth := by
  induction d with
  | nil => exact Nat.le_refl 1
  | cons e rest ih =>
    unfold depth
    exact Nat.le_trans ih (Nat.le_max_right _ _)

/-- A folder stays as deep as it is if all that is dropped or changed in it is as deep as it
was. -/
theorem depth_adjust {keep : String → DiskItem → Option DiskItem}
    (hkeep : ∀ name item, (keep name item).elim 0 itemDepth = itemDepth item) (d : Disk) :
    (d.adjust keep).depth = d.depth := by
  induction d with
  | nil => rfl
  | cons e rest ih =>
    obtain ⟨name, item⟩ := e
    have hdepth := hkeep name item
    have hpos := one_le_depth rest
    unfold adjust at ih ⊢
    cases hitem : keep name item with
    | none =>
      rw [hitem] at hdepth
      simp only [List.filterMap_cons, hitem, Option.map_none, ih, depth, ← hdepth, Option.elim]
      omega
    | some kept =>
      rw [hitem] at hdepth
      simp only [List.filterMap_cons, hitem, Option.map_some, ih, depth, ← hdepth, Option.elim]

theorem itemDepth_removeFile (path : List String) (item : DiskItem) :
    (item.removeFile path).elim 0 itemDepth = itemDepth item := by
  induction path generalizing item with
  | nil => cases item <;> rfl
  | cons step rest ih =>
    cases item with
    | file bytes => rfl
    | deadLink => rfl
    | folder entries =>
      refine depth_adjust ?_ entries
      intro name item
      split
      · exact ih item
      · rfl

/-- Folders are nested as deep as before when a file is removed. -/
theorem depth_removeFile (d : Disk) (path : List String) : (d.removeFile path).depth = d.depth := by
  have hfolder := itemDepth_removeFile path (.folder d)
  rw [removeFile_folder] at hfolder
  exact hfolder

/-! ## Places -/

/-- The place that a path leads to from a place. A step up drops the last name. -/
def locateFrom (c : List String) : List String → List String
  | [] => c
  | step :: rest => locateFrom (if step = ".." then c.dropLast else c ++ [step]) rest

/-- The place that a path leads to, as the names from the top down to it. -/
def locate (path : List String) : List String := locateFrom [] path

theorem locateFrom_append (c path path' : List String) :
    locateFrom c (path ++ path') = locateFrom (locateFrom c path) path' := by
  induction path generalizing c with
  | nil => rfl
  | cons step rest ih => exact ih _

/-- Names only lead down. -/
theorem locateFrom_names {names : List String} (h : AreNames names) (c : List String) :
    locateFrom c names = c ++ names := by
  induction names generalizing c with
  | nil => simp [locateFrom]
  | cons name names ih =>
    have hup : name ≠ ".." := (h name (by simp)).2
    rw [locateFrom, if_neg hup, ih fun other hother => h other (by simp [hother])]
    simp

theorem locate_append_names {names : List String} (h : AreNames names) (path : List String) :
    locate (path ++ names) = locate path ++ names := by
  unfold locate
  rw [locateFrom_append, locateFrom_names h]

end Disk

/-! ## What a place holds after the removal -/

/-- What is left of the item at the place `c` when the file at the place `q` is removed. -/
def DiskItem.without (q c : List String) (item : DiskItem) : Option DiskItem :=
  match q.dropPrefix? c with
  | some rest => item.removeFile rest
  | none => some item

namespace Disk

/-- What is left in the folder at the place `c` when the file at the place `q` is removed. -/
def without (q c : List String) (d : Disk) : Disk :=
  match q.dropPrefix? c with
  | some rest => d.removeFile rest
  | none => d

theorem without_folder (q c : List String) (d : Disk) :
    DiskItem.without q c (.folder d) = some (.folder (d.without q c)) := by
  unfold DiskItem.without without
  cases q.dropPrefix? c with
  | none => rfl
  | some rest => exact removeFile_folder rest d

theorem without_deadLink (q c : List String) : DiskItem.without q c .deadLink = some .deadLink := by
  unfold DiskItem.without
  cases q.dropPrefix? c with
  | none => rfl
  | some rest => cases rest <;> rfl

theorem without_file (q c : List String) (bytes : List UInt8) :
    DiskItem.without q c (.file bytes) = if c = q then none else some (.file bytes) := by
  unfold DiskItem.without
  split
  · rename_i rest hrest
    obtain ⟨c', rfl, hc⟩ := List.dropPrefix?_eq_some_iff.1 hrest
    rw [eq_of_beq hc]
    cases rest with
    | nil => simp [DiskItem.removeFile]
    | cons step rest => simp [DiskItem.removeFile]
  · rename_i hnone
    rw [if_neg]
    rintro rfl
    have hself := List.dropPrefix?_append_of_beq [] (beq_self_eq_true c)
    rw [List.append_nil, hnone] at hself
    cases hself

theorem dropPrefix?_snoc (q c : List String) (name : String) :
    q.dropPrefix? (c ++ [name]) =
      match q.dropPrefix? c with
      | some (step :: rest) => if name = step then some rest else none
      | _ => none := by
  induction c generalizing q with
  | nil =>
    cases q with
    | nil => rfl
    | cons step rest =>
      by_cases h : name = step
      · simp [List.dropPrefix?, h]
      · simp [List.dropPrefix?, h, Ne.symm h]
  | cons first c ih =>
    cases q with
    | nil => rfl
    | cons step rest =>
      by_cases h : step = first
      · simp [List.dropPrefix?, h, ih]
      · simp [List.dropPrefix?, h]

/-- In a folder, each item loses what it loses at its own place. -/
theorem without_eq_adjust (q c : List String) (d : Disk) :
    d.without q c = d.adjust fun name item => item.without q (c ++ [name]) := by
  have hsame : d.adjust (fun _ item => some item) = d := d.adjust_some
  unfold without DiskItem.without
  simp only [dropPrefix?_snoc]
  cases q.dropPrefix? c with
  | none => exact hsame.symm
  | some rest =>
    cases rest with
    | nil => exact hsame.symm
    | cons step rest =>
      dsimp only
      rw [removeFile]
      congr 1
      funext name item
      by_cases h : name = step <;> simp [h]

theorem lookup_without {d : Disk} (h : d.WellFormed) (q c : List String) (name : String) :
    (d.without q c).lookup name = (d.lookup name).bind (DiskItem.without q (c ++ [name])) := by
  rw [without_eq_adjust]
  exact lookup_adjust _ h.nodup name

/-! ## Walks after the removal -/

/-- The folders above the place `c`, nearest first, before and after the removal. -/
inductive Above (q : List String) : List String → List Disk → List Disk → Prop
  | top : Above q [] [] []
  | down {c : List String} {above above' : List Disk} {d : Disk} (name : String)
      (hd : d.WellFormed) (habove : Above q c above above') :
      Above q (c ++ [name]) (d :: above) (d.without q c :: above')

/-- A walk that finds something finds what is left of it after the removal. -/
theorem walkFrom_without {q c : List String} {above above' : List Disk}
    {item item' found : DiskItem} (habove : Above q c above above') (hitem : ItemWellFormed item)
    (hleft : item.without q c = some item') {path : List String}
    (h : walkFrom above item path = .ok found) :
    walkFrom above' item' path =
      (found.without q (locateFrom c path)).elim (.error .absent) .ok := by
  induction path generalizing c above above' item item' with
  | nil =>
    rw [locateFrom]
    cases item with
    | deadLink => cases h
    | file bytes =>
      cases h
      rw [without_file] at hleft ⊢
      split at hleft
      · cases hleft
      · cases hleft
        rename_i hne
        rw [if_neg hne]
        rfl
    | folder entries =>
      cases h
      rw [without_folder] at hleft ⊢
      cases hleft
      rfl
  | cons step rest ih =>
    cases item with
    | deadLink => cases h
    | file bytes => cases h
    | folder entries =>
      rw [without_folder] at hleft
      cases hleft
      unfold walkFrom at h ⊢
      rw [locateFrom]
      dsimp only at h ⊢
      by_cases hup : step = ".."
      · simp only [if_pos hup] at h ⊢
        cases habove with
        | top =>
          -- above the top nothing is known, so nothing is removed
          have hempty : DiskItem.without q [] (.folder []) = some (.folder []) := by
            rw [without_folder, without_eq_adjust]
            rfl
          exact ih .top ((itemWellFormed_folder []).2 trivial) hempty h
        | @down _ _ _ parent name hd habove =>
          rw [List.dropLast_concat]
          exact ih habove ((itemWellFormed_folder parent).2 hd) (without_folder q _ parent) h
      · simp only [if_neg hup] at h ⊢
        split at h
        · cases h
        · rename_i hlength
          rw [if_neg hlength, lookup_without hitem]
          cases hlookup : entries.lookup step with
          | none => simp [hlookup] at h
          | some next =>
            simp only [hlookup] at h
            rw [Option.bind_some]
            cases hnext : next.without q (c ++ [step]) with
            | some next' => exact ih (.down step hitem habove) (hitem.of_lookup hlookup) hnext h
            | none =>
              -- only the file itself is gone, and a walk that is not over does not get past it
              cases next with
              | deadLink => simp [without_deadLink] at hnext
              | folder entries => simp [without_folder] at hnext
              | file bytes =>
                cases rest with
                | nil =>
                  cases h
                  rw [locateFrom, hnext]
                  rfl
                | cons => cases h

theorem at?_removeFile {d : Disk} (hd : d.WellFormed) (q : List String) {path : List String}
    {found : DiskItem} (h : d.at? path = .ok found) :
    (d.removeFile q).at? path = (found.without q (locate path)).elim (.error .absent) .ok := by
  have hleft : DiskItem.without q [] (.folder d) = some (.folder (d.removeFile q)) := by
    rw [without_folder]
    simp [without]
  unfold at? at h ⊢
  split at h
  · cases h
  · split at h
    · cases h
    · rename_i hnull hlength
      rw [if_neg hnull, if_neg hlength]
      exact walkFrom_without .top ((itemWellFormed_folder d).2 hd) hleft h

end Disk

end CodeAtlas
