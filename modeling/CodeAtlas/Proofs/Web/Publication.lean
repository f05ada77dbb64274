-- Folders that are published on the web. A repository that lists every folder as it stands and
-- answers for every file with its bytes can be gone through to the end, and mirrors the same folder
-- on a disk.
import CodeAtlas.Proofs.Scan.EveryFile
import CodeAtlas.Proofs.Scan.Mirror
import CodeAtlas.Text.Utf8
import CodeAtlas.Web.Client

namespace CodeAtlas

/-! ## Answers -/

/-- The bytes of an answer. -/
def Content.body : Content → List UInt8
  | json j => Utf8.encode j.line.toList
  | bytes bs => bs

theorem Content.text_eq (c : Content) : c.text = String.ofList (Utf8.decodeLossy c.body) := by
  cases c with
  | json j => simp [text, body, Utf8.decodeLossy_encode]
  | bytes bs => rfl

/-- Only what the web has an answer for can be got. -/
theorem Web.mem_keys_of_get {web : Web} {url : String} {content : Content}
    (h : web.get (.text url) = .ok content) : url ∈ web.replies.map (·.1) := by
  by_contra hnone
  have hlookup : web.replies.lookup url = none :=
    (Register.lookup_eq_none_iff web.replies url).2 hnone
  unfold get reply at h
  simp only [Json.shown, hlookup, Option.getD_none] at h
  split at h
  · cases h
  · split at h
    · cases h
    · simp at h

/-- No file in the folder, or in a folder below, has a carriage return in its text. -/
def Disk.HasPlainTexts (d : Disk) : Prop :=
  ∀ path bytes, (DiskItem.folder d).below? path = some (.file bytes) →
    '\r' ∉ Utf8.decodeLossy bytes

theorem Disk.hasPlainTexts_of_items {d : Disk}
    (hfiles : ∀ name bytes, (name, .file bytes) ∈ d → '\r' ∉ Utf8.decodeLossy bytes)
    (hfolders : ∀ name inside, (name, .folder inside) ∈ d → HasPlainTexts inside) :
    d.HasPlainTexts := by
  intro path bytes hfound
  cases path with
  | nil => cases hfound
  | cons name rest =>
    rw [DiskItem.below?_folder] at hfound
    obtain ⟨item, hlookup, hitem⟩ := Option.bind_eq_some_iff.1 hfound
    have hmem := mem_of_lookup hlookup
    cases item with
    | folder inside => exact hfolders name inside hmem rest bytes hitem
    | deadLink => cases rest <;> cases hitem
    | file own =>
      cases rest with
      | nil =>
        cases hitem
        exact hfiles name bytes hmem
      | cons next rest => cases hitem

namespace Repository

/-! ## What is published -/

/-- The object describes what has the name in the folder at `path`, as something of this kind. -/
structure Describes (item : Json) (kind : EntryKind) (path : List String) (name : String) :
    Prop where
  isObject : ∃ members, item = .object members
  type_eq : item.get? "type" = some kind.label
  name_eq : item.get? "name" = some (.text name)
  path_eq : item.get? "path" = some (.text (Path.render (path ++ [name])))

/-- The objects describe the items of the folder at `path` one by one, and every file has an
address that answers with its bytes. Links that lead nowhere are not described as files or folders;
objects of other kinds may stand anywhere. -/
inductive Lists (web : Web) (path : List String) : Disk → List Json → Prop
  | nil : Lists web path [] []
  | file {name url : String} {bytes : List UInt8} {content : Content} {item : Json} {rest : Disk}
      {items : List Json} (hitem : Describes item .file path name)
      (hurl : item.get? "download_url" = some (.text url)) (hne : url ≠ "")
      (hget : web.get (.text url) = .ok content) (hbody : content.body = bytes)
      (hrest : Lists web path rest items) :
      Lists web path ((name, .file bytes) :: rest) (item :: items)
  | folder {name : String} {inside : Disk} {item : Json} {rest : Disk} {items : List Json}
      (hitem : Describes item .folder path name) (hrest : Lists web path rest items) :
      Lists web path ((name, .folder inside) :: rest) (item :: items)
  | deadLink {name : String} {rest : Disk} {items : List Json} (hrest : Lists web path rest items) :
      Lists web path ((name, .deadLink) :: rest) items
  | other {members : List (String × Json)} {label : Label} {rest : Disk} {items : List Json}
      (hkind : .ofLabel (((Json.object members).get? "type").getD .null) = EntryKind.other label)
      (hrest : Lists web path rest items) : Lists web path rest (.object members :: items)

/-- The label by which a folder is listed. -/
def folderLabel (path : List String) : Label :=
  .text (if path.isEmpty then "" else Path.render path)

/-- At the address of the folder stands a list of what is in it, in the order of names. -/
def ListsFolder (r : Repository) (web : Web) (path : List String) (d : Disk) : Prop :=
  ∃ content items, web.get (.text (r.listingUrl (folderLabel path))) = .ok content ∧
    content.document web.transport.nesting = .ok (.list items) ∧ Lists web path d.sorted items

/-- The folder at `path` is listed, and so are all folders in it. -/
def Publishes (r : Repository) (web : Web) (path : List String) (d : Disk) : Prop :=
  ∀ below inside, (DiskItem.folder d).below? below = some (.folder inside) →
    r.ListsFolder web (path ++ below) inside

variable {r : Repository} {web : Web} {path : List String} {d table : Disk} {name : String}
  {item : Json} {items : List Json} {e e' : Entry}

/-! ## Entries -/

theorem Describes.entryOf_folder (h : Describes item .folder path name) :
    entryOf item =
      .ok (some ⟨.folder, .text name, .text (Path.render (path ++ [name])), .null⟩) := by
  obtain ⟨⟨members, rfl⟩, htype, hname, hpath⟩ := h
  unfold entryOf member
  simp only [htype, hname, hpath]
  rfl

theorem Describes.entryOf_file (h : Describes item .file path name) {reference : Label}
    (hurl : item.get? "download_url" = some reference) :
    entryOf item =
      .ok (some ⟨.file, .text name, .text (Path.render (path ++ [name])), reference⟩) := by
  obtain ⟨⟨members, rfl⟩, htype, hname, hpath⟩ := h
  unfold entryOf member
  simp only [htype, hname, hpath, hurl]
  rfl

theorem entriesOf_cons {entry : Option Entry} {es : List Entry} (hentry : entryOf item = .ok entry)
    (hes : entriesOf items = .ok es) : entriesOf (item :: items) = .ok (entry.toList ++ es) := by
  unfold entriesOf
  rw [hentry, hes]
  rfl

/-- The second entry is how the web shows what the disk shows by the first one, for some item of
the folder at `path`. -/
inductive Shows (web : Web) (path : List String) (d : Disk) : Entry → Entry → Prop
  | file {name url : String} {bytes : List UInt8} {content : Content}
      (hlookup : d.lookup name = some (.file bytes)) (hne : url ≠ "")
      (hget : web.get (.text url) = .ok content) (hbody : content.body = bytes) :
      Shows web path d
        ⟨.file, .text name, .text (Path.render (path ++ [name])),
          .text (Path.render (path ++ [name]))⟩
        ⟨.file, .text name, .text (Path.render (path ++ [name])), .text url⟩
  | folder {name : String} {inside : Disk} (hlookup : d.lookup name = some (.folder inside)) :
      Shows web path d ⟨.folder, .text name, .text (Path.render (path ++ [name])), .null⟩
        ⟨.folder, .text name, .text (Path.render (path ++ [name])), .null⟩

/-- The entries of a listing are those of the folder, one by one. -/
theorem Lists.entriesOf {rest : Disk} (h : Lists web path rest items)
    (hrest : ∀ x ∈ rest, d.lookup x.1 = some x.2) :
    ∃ es, entriesOf items = .ok es ∧
      List.Forall₂ (Shows web path d) (rest.filterMap (Provider.entryOfItem? path)) es := by
  induction h with
  | nil => exact ⟨[], rfl, .nil⟩
  | file hitem hurl hne hget hbody _ ih =>
    obtain ⟨hfirst, hrest⟩ := List.forall_mem_cons.1 hrest
    obtain ⟨es, hes, hall⟩ := ih hrest
    exact ⟨_ :: es, entriesOf_cons (hitem.entryOf_file hurl) hes,
      .cons (.file hfirst hne hget hbody) hall⟩
  | folder hitem _ ih =>
    obtain ⟨hfirst, hrest⟩ := List.forall_mem_cons.1 hrest
    obtain ⟨es, hes, hall⟩ := ih hrest
    exact ⟨_ :: es, entriesOf_cons hitem.entryOf_folder hes, .cons (.folder hfirst) hall⟩
  | deadLink _ ih => exact ih (List.forall_mem_cons.1 hrest).2
  | @other members _ _ _ hkind _ ih =>
    obtain ⟨es, hes, hall⟩ := ih hrest
    have hnone : entryOf (.object members) = .ok none := by
      simp [entryOf, hkind]
    exact ⟨es, entriesOf_cons hnone hes, hall⟩

/-! ## Listings -/

theorem folderLabel_append (path : List String) (name : String) :
    folderLabel (path ++ [name]) = .text (Path.render (path ++ [name])) := by
  simp [folderLabel]

theorem ListsFolder.exists_list (hd : d.WellFormed) (h : r.ListsFolder web path d) :
    ∃ es, (Provider.ofRepository web r).list (folderLabel path) = .ok es ∧
      List.Forall₂ (Shows web path d) (d.sorted.filterMap (Provider.entryOfItem? path)) es := by
  obtain ⟨content, items, hget, hdocument, hlists⟩ := h
  have hsorted : ∀ x ∈ d.sorted, d.lookup x.1 = some x.2 := by
    intro x hx
    exact (Register.lookup_eq_some_iff hd.nodup x.1 x.2).2 ((Disk.sorted_perm d).subset hx)
  obtain ⟨es, hes, hall⟩ := hlists.entriesOf hsorted
  refine ⟨es, ?_, hall⟩
  show r.list web (folderLabel path) = .ok es
  unfold list listing
  rw [hget]
  simp only [bind, Except.bind, hdocument, hes]

/-- A folder that is published is listed like the same folder on a disk. -/
theorem Publishes.exists_list (h : r.Publishes web [] table) (htable : table.WellFormed)
    (hd : Scan.Holds table path d) :
    ∃ es, (Provider.ofRepository web r).list (folderLabel path) = .ok es ∧
      List.Forall₂ (Shows web path d) (d.sorted.filterMap (Provider.entryOfItem? path)) es := by
  have hwell : d.WellFormed := (Disk.itemWellFormed_folder d).1 (htable.of_below? hd).2
  have hlists : r.ListsFolder web path d := h path d hd
  exact hlists.exists_list hwell

theorem exists_folder_take {item : DiskItem} (h : item.below? path = some (.folder d)) (k : Nat) :
    ∃ inside, item.below? (path.take k) = some (.folder inside) := by
  rw [← List.take_append_drop k path, DiskItem.below?_append] at h
  obtain ⟨found, hfound, hrest⟩ := Option.bind_eq_some_iff.1 h
  cases found with
  | folder inside => exact ⟨inside, hfound⟩
  | file bytes => cases hdrop : path.drop k <;> simp [hdrop, DiskItem.below?] at hrest
  | deadLink => cases hdrop : path.drop k <;> simp [hdrop, DiskItem.below?] at hrest

/-- A folder is published if it is listed and the folders in it are published. -/
theorem ListsFolder.publishes (hhere : r.ListsFolder web path d)
    (hfolders : ∀ name inside, (name, .folder inside) ∈ d →
      r.Publishes web (path ++ [name]) inside) : r.Publishes web path d := by
  intro below found hfound
  cases below with
  | nil =>
    cases hfound
    rwa [List.append_nil]
  | cons name below =>
    rw [DiskItem.below?_folder] at hfound
    obtain ⟨item, hlookup, hitem⟩ := Option.bind_eq_some_iff.1 hfound
    obtain ⟨inside, hfolder⟩ := exists_folder_take hitem 0
    cases hfolder
    have hlists := hfolders name inside (Disk.mem_of_lookup hlookup) below found hitem
    rwa [List.append_assoc, List.singleton_append] at hlists

/-! ## How deep folders lie -/

theorem components_folderLabel (hpath : Path.AreComponents path) :
    Path.components (folderLabel path).shown = path := by
  cases path with
  | nil => rfl
  | cons first rest => simpa [folderLabel, Json.shown] using Path.components_render hpath

/-- Different folders have different addresses. -/
theorem listingUrl_injective {path' : List String} (hpath : Path.AreComponents path)
    (hpath' : Path.AreComponents path')
    (h : r.listingUrl (folderLabel path) = r.listingUrl (folderLabel path')) : path = path' := by
  have hshown : (folderLabel path).shown = (folderLabel path').shown := by
    unfold listingUrl at h
    have hchars := congrArg String.toList h
    simp only [String.toList_append, List.append_cancel_left_eq] at hchars
    exact String.toList_inj.1 hchars
  rw [← components_folderLabel hpath, hshown, components_folderLabel hpath']

/-- The web has an answer for each folder on the way down, so no folder lies deeper than the web
has answers. -/
theorem Publishes.length_lt (h : r.Publishes web [] table) (htable : table.WellFormed)
    (hd : Scan.Holds table path d) : path.length < web.replies.length := by
  have hfolder : ∀ k, ∃ inside, Scan.Holds table (path.take k) inside := exists_folder_take hd
  have hnames : ∀ k, Path.AreComponents (path.take k) := by
    intro k
    obtain ⟨inside, hinside⟩ := hfolder k
    exact (htable.of_below? hinside).1.areComponents
  let url (k : Nat) : String := r.listingUrl (folderLabel (path.take k))
  have hnodup : ((List.range (path.length + 1)).map url).Nodup := by
    refine List.Nodup.map_on ?_ List.nodup_range
    intro k hk k' hk' hurl
    have htake := congrArg List.length (listingUrl_injective (hnames k) (hnames k') hurl)
    simp only [List.length_take, List.mem_range] at htake hk hk'
    omega
  have hsub : (List.range (path.length + 1)).map url ⊆ web.replies.map (·.1) := by
    intro address haddress
    obtain ⟨k, -, rfl⟩ := List.mem_map.1 haddress
    obtain ⟨inside, hinside⟩ := hfolder k
    obtain ⟨content, items, hget, -, -⟩ := h _ _ hinside
    exact Web.mem_keys_of_get hget
  have hle := hnodup.length_le_of_subset hsub
  simp only [List.length_map, List.length_range] at hle
  omega

/-! ## Scans of what is published -/

theorem textOf_text {url : String} {content : Content} (hne : url ≠ "")
    (hget : web.get (.text url) = .ok content) :
    (Provider.ofRepository web r).textOf (.text url) = .ok content.text := by
  have hvoid : (Json.text url).isVoid = false := by simpa [Json.isVoid] using hne
  rw [Provider.textOf_ofRepository]
  unfold fetch
  rw [hvoid, hget]
  rfl

theorem target_text {url : String} (hne : url ≠ "") (kind : EntryKind) (name path : Label) :
    (Entry.mk kind name path (.text url)).target = .text url := by
  simp [Entry.target, Json.isVoid, hne]

variable {s : Settings} {n : Nat} {es es' : List Entry}

/-- What the web shows can be taken in, if that holds for what lies in the folders. -/
theorem Shows.ready (hshows : Shows web path d e e')
    (hfolders : ∀ name inside, d.lookup name = some (.folder inside) →
      ∃ m listed, n = m + 1 ∧
        (Provider.ofRepository web r).list (folderLabel (path ++ [name])) = .ok listed ∧
        Scan.Succeeds s (.ofRepository web r) m listed) :
    Scan.Ready s (.ofRepository web r) n e' := by
  cases hshows with
  | file hlookup hne hget hbody =>
    refine ⟨rfl, rfl, fun _ => ?_, fun hkind => ?_⟩
    · rw [target_text hne]
      exact ⟨_, textOf_text hne hget⟩
    · cases hkind
  | folder hlookup =>
    refine ⟨rfl, rfl, fun hkind => ?_, fun _ _ => ?_⟩
    · cases hkind
    · obtain ⟨m, listed, hn, hlist, hsucceeds⟩ := hfolders _ _ hlookup
      rw [folderLabel_append] at hlist
      exact ⟨m, listed, hn, hlist, hsucceeds⟩

theorem Publishes.succeeds (h : r.Publishes web [] table) (htable : table.WellFormed)
    (hd : Scan.Holds table path d) (hn : web.replies.length ≤ path.length + n)
    (hes : List.Forall₂ (Shows web path d) es es') :
    Scan.Succeeds s (.ofRepository web r) n es' := by
  induction n generalizing path d es es' with
  | zero =>
    have hlt := h.length_lt htable hd
    omega
  | succ n ih =>
    have hfolders : ∀ name inside, d.lookup name = some (.folder inside) →
        ∃ m listed, n + 1 = m + 1 ∧
          (Provider.ofRepository web r).list (folderLabel (path ++ [name])) = .ok listed ∧
          Scan.Succeeds s (.ofRepository web r) m listed := by
      intro name inside hlookup
      have hinside : Scan.Holds table (path ++ [name]) inside := hd.below? hlookup
      obtain ⟨listed, hlist, hall⟩ := h.exists_list htable hinside
      refine ⟨n, listed, rfl, hlist, ih hinside ?_ hall⟩
      rw [List.length_append, List.length_singleton]
      omega
    apply Scan.succeeds_of_ready
    induction hes with
    | nil => simp
    | cons hshows _ ihes => exact List.forall_mem_cons.2 ⟨hshows.ready hfolders, ihes⟩

/-- Every scan of what is published succeeds. -/
theorem Publishes.exists_run (h : r.Publishes web [] table) (htable : table.WellFormed)
    (s : Settings) :
    ∃ scan, (Scan.run s (.ofRepository web r) (.text "")).result = .ok scan ∧
      ∀ f ∈ scan.project.files, f.path.isText = true := by
  have htop : Scan.Holds table [] table := rfl
  obtain ⟨es, hlist, hall⟩ := h.exists_list htable htop
  have hsucceeds := h.succeeds (s := s) htable htop (Nat.le_add_left _ _) hall
  exact Scan.exists_run_of_succeeds rfl rfl hlist hsucceeds

/-! ## The web and the disk -/

/-- The entries are of one item of some folder of the table, on a disk and on the web. -/
def Mirrored (web : Web) (table : Disk) (e e' : Entry) : Prop :=
  ∃ path d, Scan.Holds table path d ∧ Shows web path d e e'

theorem Shows.place (hshows : Shows web path d e e') : e'.place = e.place := by
  cases hshows <;> rfl

/-- A file without carriage returns has the same text on a disk and on the web. -/
theorem text_eq_fileText {content : Content} (h : '\r' ∉ Utf8.decodeLossy content.body) :
    content.text = Provider.fileText content.body := by
  rw [content.text_eq, Provider.fileText, Lines.unify_eq_self h]

/-- A folder that is published mirrors the same folder on a disk. -/
theorem Publishes.mirrors {disk : Disk} {root : List String} (h : r.Publishes web [] table)
    (hserves : Scan.Serves disk root table) (htexts : table.HasPlainTexts) :
    Scan.Mirrors (.ofDisk disk root) (.ofRepository web r) (Mirrored web table) where
  place := by
    rintro e e' ⟨path, d, -, hshows⟩
    exact hshows.place
  fetch := by
    rintro e e' text text' ⟨path, d, hd, hshows⟩ hkind hfetch hfetch'
    cases hshows with
    | folder _ => cases hkind
    | @file name url bytes content hlookup hne hget hbody =>
      have hbelow := hd.below? hlookup
      obtain ⟨hnames, -⟩ := hserves.wellFormed.of_below? hbelow
      obtain ⟨hfit, -⟩ := hserves.namesFit.of_below? hbelow
      have hentry : Provider.entryOfItem? path (name, .file bytes) = some _ := rfl
      rw [(Provider.entryOfItem?_eq_some hentry).2.2, Provider.textOf_render hnames.areComponents,
        Provider.textAt_eq_ok_iff] at hfetch
      obtain ⟨found, hat, rfl⟩ := hfetch
      obtain ⟨-, hfound, -⟩ := (Disk.at?_append_eq_ok_iff hserves.at_root hnames hfit _).1 hat
      cases hbelow.symm.trans hfound
      rw [target_text hne, textOf_text hne hget] at hfetch'
      cases hfetch'
      subst hbody
      exact text_eq_fileText (htexts _ _ hbelow)
  list := by
    rintro e e' es es' ⟨path, d, hd, hshows⟩ hkind hlist hlist'
    cases hshows with
    | file _ _ _ _ => cases hkind
    | @folder name inside hlookup =>
      have hinside : Scan.Holds table (path ++ [name]) inside := hd.below? hlookup
      obtain ⟨hnames, -⟩ := hserves.wellFormed.of_below? hinside
      rw [Provider.list_render hnames.areComponents] at hlist
      obtain ⟨-, -, rfl⟩ := (hserves.listFolder_eq_ok_iff hinside).1 hlist
      obtain ⟨listed, hlisted, hall⟩ := h.exists_list hserves.wellFormed hinside
      rw [folderLabel_append] at hlisted
      cases hlisted.symm.trans hlist'
      exact hall.imp fun _ _ hshows => ⟨_, _, hinside, hshows⟩

/-- Both list the same at the top. -/
theorem Publishes.mirrored_top {disk : Disk} {root : List String} (h : r.Publishes web [] table)
    (hserves : Scan.Serves disk root table)
    (hlist : (Provider.ofDisk disk root).list (.text "") = .ok es)
    (hlist' : (Provider.ofRepository web r).list (.text "") = .ok es') :
    List.Forall₂ (Mirrored web table) es es' := by
  have htop : Scan.Holds table [] table := rfl
  obtain ⟨-, rfl⟩ := hserves.list_top_iff.1 hlist
  obtain ⟨listed, hlisted, hall⟩ := h.exists_list hserves.wellFormed htop
  cases hlisted.symm.trans hlist'
  exact hall.imp fun _ _ hshows => ⟨_, _, htop, hshows⟩

end Repository

end CodeAtlas
