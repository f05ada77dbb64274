-- What a provider that serves a folder of a disk answers: its listings are the folders of the disk
-- in the order of their names, its texts are the files. When a file is removed, its entry is
-- missing from the listing of its folder, and every other answer that was given still is.
import CodeAtlas.Proofs.Disk.Removal
import CodeAtlas.Provider

namespace CodeAtlas

/-- Both labels are texts, and the first comes before the second in the order of characters. -/
def Label.Precedes (a b : Label) : Prop := ∃ x y : String, a = .text x ∧ b = .text y ∧ x < y

namespace Provider

open Disk (IsName locate)

/-- A listing is not stopped if no item has a path that is too long. -/
theorem find?_isTooLong_eq_none_iff (entries : Disk) (folder : List String) :
    (entries.sorted.map fun x => folder ++ [x.1]).find? Disk.isTooLong = none ↔
      ∀ x ∈ entries, Disk.isTooLong (folder ++ [x.1]) = false := by
  rw [List.find?_eq_none, List.forall_mem_map]
  simp only [(Disk.sorted_perm entries).mem_iff, Bool.not_eq_true]

theorem listFolder_eq_ok_iff (disk : Disk) (root path : List String) (es : List Entry) :
    listFolder disk root path = .ok es ↔ ∃ entries : Disk,
      disk.at? (root ++ path) = .ok (.folder entries) ∧
        (∀ x ∈ entries, Disk.isTooLong (root ++ path ++ [x.1]) = false) ∧
        es = entries.sorted.filterMap (entryOfItem? path) := by
  simp only [← find?_isTooLong_eq_none_iff]
  unfold listFolder Disk.folder? Disk.find?
  cases hat : disk.at? (root ++ path) with
  | error stop => cases stop <;> simp [Except.map]
  | ok item =>
    cases item with
    | file bytes => simp [Except.map]
    | deadLink => simp [Except.map]
    | folder entries =>
      simp only [Except.map]
      split
      · rename_i long hfind
        constructor
        · rintro ⟨⟩
        · rintro ⟨_, ⟨⟩, hnone, -⟩
          cases hfind.symm.trans hnone
      · rename_i hfind
        constructor
        · rintro ⟨⟩
          exact ⟨entries, rfl, hfind, rfl⟩
        · rintro ⟨_, ⟨⟩, -, rfl⟩
          rfl

theorem textAt_eq_ok_iff (disk : Disk) (path : List String) (text : String) :
    textAt disk path = .ok text ↔ ∃ bytes, disk.at? path = .ok (.file bytes) ∧
      text = fileText bytes := by
  unfold textAt Disk.read
  cases hat : disk.at? path with
  | error stop => cases stop <;> simp
  | ok item => cases item <;> simp [eq_comm]

theorem list_render {path : List String} (h : Path.AreComponents path) (disk : Disk)
    (root : List String) :
    (ofDisk disk root).list (.text (Path.render path)) = listFolder disk root path := by
  simp [ofDisk, Path.components_render h]

theorem textOf_ofDisk (disk : Disk) (root : List String) (reference : String) :
    (ofDisk disk root).textOf (.text reference) =
      textAt disk (root ++ Path.components reference) := textOf_of_map rfl

theorem textOf_render {path : List String} (h : Path.AreComponents path) (disk : Disk)
    (root : List String) :
    (ofDisk disk root).textOf (.text (Path.render path)) = textAt disk (root ++ path) := by
  rw [textOf_ofDisk, Path.components_render h]

/-- A folder whose names are in order is listed as it is. -/
theorem listFolder_of_pairwise {disk entries : Disk} {root path : List String}
    (hat : disk.at? (root ++ path) = .ok (.folder entries))
    (h : entries.Pairwise fun a b => a.1 ≤ b.1)
    (hshort : ∀ x ∈ entries, Disk.isTooLong (root ++ path ++ [x.1]) = false) :
    listFolder disk root path = .ok (entries.filterMap (entryOfItem? path)) := by
  rw [listFolder_eq_ok_iff]
  exact ⟨entries, hat, hshort, by rw [Disk.sorted_of_pairwise h]⟩

theorem list_top {disk : Disk} (h : disk.Pairwise fun a b => a.1 ≤ b.1)
    (hshort : ∀ x ∈ disk, Disk.isTooLong [x.1] = false) :
    (ofDisk disk []).list (.text "") = .ok (disk.filterMap (entryOfItem? [])) := by
  show listFolder disk [] [] = _
  exact listFolder_of_pairwise rfl h hshort

theorem list_of_pairwise {disk entries : Disk} {root path : List String}
    (hpath : Path.AreComponents path) (hat : disk.at? (root ++ path) = .ok (.folder entries))
    (h : entries.Pairwise fun a b => a.1 ≤ b.1)
    (hshort : ∀ x ∈ entries, Disk.isTooLong (root ++ path ++ [x.1]) = false) :
    (ofDisk disk root).list (.text (Path.render path)) =
      .ok (entries.filterMap (entryOfItem? path)) := by
  rw [list_render hpath]
  exact listFolder_of_pairwise hat h hshort

/-- A label that a folder is listed for stands for the same path on every disk. -/
theorem exists_start {disk : Disk} {root : List String} {path : Label} {es : List Entry}
    (h : (ofDisk disk root).list path = .ok es) :
    ∃ start, Path.AreComponents start ∧
      ∀ other, (ofDisk other root).list path = listFolder other root start := by
  by_cases htext : ∃ s, path = .text s
  · obtain ⟨s, rfl⟩ := htext
    exact ⟨Path.components s, Path.areComponents_components s, fun _ => rfl⟩
  · have hother : ∀ d, (ofDisk d root).list path =
        if path.isVoid then listFolder d root [] else .error (.label (.notText path)) := by
      intro d
      cases path with
      | text s => exact absurd ⟨s, rfl⟩ htext
      | _ => rfl
    rw [hother] at h
    split at h
    · rename_i hvoid
      refine ⟨[], Disk.areNames_nil.areComponents, ?_⟩
      intro d
      rw [hother, if_pos hvoid]
    · cases h

/-! ## Entries -/

theorem entryOfItem?_eq_some {path : List String} {x : String × DiskItem} {e : Entry}
    (h : entryOfItem? path x = some e) :
    e.name = .text x.1 ∧ e.path = .text (Path.render (path ++ [x.1])) ∧ e.target = e.path := by
  obtain ⟨name, item⟩ := x
  cases item with
  | deadLink => cases h
  | file bytes =>
    cases h
    refine ⟨rfl, rfl, ?_⟩
    unfold Entry.target
    split <;> rfl
  | folder entries =>
    cases h
    exact ⟨rfl, rfl, rfl⟩

/-- An entry of a folder on a disk is called by its name, and lies under its name in the folder. -/
theorem mem_listFolder {disk : Disk} (hdisk : disk.WellFormed) {root path : List String}
    {es : List Entry} (h : listFolder disk root path = .ok es) {e : Entry} (he : e ∈ es) :
    ∃ name, IsName name ∧ e.name = .text name ∧
      e.path = .text (Path.render (path ++ [name])) ∧ e.target = e.path := by
  obtain ⟨entries, hat, -, rfl⟩ := (listFolder_eq_ok_iff _ _ _ _).1 h
  obtain ⟨x, hx, hsome⟩ := List.mem_filterMap.1 he
  have hentries : entries.WellFormed := (Disk.itemWellFormed_folder _).1 (hdisk.of_at? hat)
  have hname : IsName x.1 := hentries.isName ((Disk.sorted_perm entries).subset hx)
  exact ⟨x.1, hname, entryOfItem?_eq_some hsome⟩

/-- No two entries of a folder on a disk have the same name. -/
theorem nodup_listFolder {disk : Disk} (hdisk : disk.WellFormed) {root path : List String}
    {es : List Entry} (h : listFolder disk root path = .ok es) : (es.map Entry.name).Nodup := by
  obtain ⟨entries, hat, -, rfl⟩ := (listFolder_eq_ok_iff _ _ _ _).1 h
  have hentries : entries.WellFormed := (Disk.itemWellFormed_folder _).1 (hdisk.of_at? hat)
  have hnodup := Disk.nodup_sorted hentries.nodup
  refine List.pairwise_map.2 ((List.pairwise_map.1 hnodup).filterMap _ ?_)
  intro a a' hne b hb b' hb'
  rw [(entryOfItem?_eq_some hb).1, (entryOfItem?_eq_some hb').1]
  intro heq
  exact hne (Json.text.inj heq)

/-- The entries of a folder on a disk are in the order of their names. -/
theorem pairwise_listFolder {disk : Disk} (hdisk : disk.WellFormed) {root path : List String}
    {es : List Entry} (h : listFolder disk root path = .ok es) :
    es.Pairwise fun a b => a.name.Precedes b.name := by
  obtain ⟨entries, hat, -, rfl⟩ := (listFolder_eq_ok_iff _ _ _ _).1 h
  have hentries : entries.WellFormed := (Disk.itemWellFormed_folder _).1 (hdisk.of_at? hat)
  have hnodup := List.pairwise_map.1 (Disk.nodup_sorted hentries.nodup)
  refine ((Disk.pairwise_sorted entries).and hnodup).filterMap _ ?_
  rintro a a' ⟨hle, hne⟩ b hb b' hb'
  refine ⟨a.1, a'.1, (entryOfItem?_eq_some hb).1, (entryOfItem?_eq_some hb').1, ?_⟩
  rw [← String.not_le]
  exact fun hge => hne (String.le_antisymm hle hge)

end Provider

/-! ## After the removal of a file -/

def Entry.isFileAt (path : Label) (e : Entry) : Bool := e.kind = .file && e.path = path

namespace Provider

open Disk (IsName locate)

/-- The entry of a removed file is missing from the listing of its folder. -/
theorem listFolder_removeFile {disk : Disk} (hdisk : disk.WellFormed) {root path q : List String}
    {gone : Label} (hgone : ∀ name, IsName name →
      (locate (root ++ path) ++ [name] = q ↔ Json.text (Path.render (path ++ [name])) = gone))
    {es : List Entry} (h : listFolder disk root path = .ok es) :
    listFolder (disk.removeFile q) root path = .ok (es.filter fun e => !e.isFileAt gone) := by
  obtain ⟨entries, hat, hshort, rfl⟩ := (listFolder_eq_ok_iff _ _ _ _).1 h
  have hentries : entries.WellFormed := (Disk.itemWellFormed_folder _).1 (hdisk.of_at? hat)
  have hat' := Disk.at?_removeFile hdisk q hat
  rw [Disk.without_folder, Disk.without_eq_adjust] at hat'
  refine (listFolder_eq_ok_iff _ _ _ _).2 ⟨_, hat', ?_, ?_⟩
  · intro x hx
    obtain ⟨item, hitem, -⟩ := Disk.mem_adjust hx
    exact hshort (x.1, item) hitem
  rw [Disk.sorted_adjust _ hentries.nodup]
  unfold Disk.adjust
  rw [List.filterMap_filterMap, List.filter_filterMap]
  refine List.filterMap_congr ?_
  rintro ⟨name, item⟩ hx
  have hname : IsName name := hentries.isName ((Disk.sorted_perm entries).subset hx)
  cases item with
  | deadLink => simp [Disk.without_deadLink, entryOfItem?]
  | folder inside => simp [Disk.without_folder, entryOfItem?, Entry.isFileAt]
  | file bytes =>
    have hiff := hgone name hname
    by_cases hplace : locate (root ++ path) ++ [name] = q
    · simp [Disk.without_file, entryOfItem?, Entry.isFileAt, hplace, hiff.1 hplace]
    · simp [Disk.without_file, entryOfItem?, Entry.isFileAt, hplace, mt hiff.2 hplace]

/-- Every other file has its text. -/
theorem textAt_removeFile {disk : Disk} (hdisk : disk.WellFormed) {path q : List String}
    {text : String} (hplace : locate path ≠ q) (h : textAt disk path = .ok text) :
    textAt (disk.removeFile q) path = .ok text := by
  obtain ⟨bytes, hat, rfl⟩ := (textAt_eq_ok_iff _ _ _).1 h
  have hat' := Disk.at?_removeFile hdisk q hat
  rw [Disk.without_file, if_neg hplace] at hat'
  exact (textAt_eq_ok_iff _ _ _).2 ⟨bytes, hat', rfl⟩

end Provider

end CodeAtlas
