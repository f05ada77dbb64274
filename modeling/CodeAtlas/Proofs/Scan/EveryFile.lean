-- Scans of a folder on a disk miss nothing. A scan brings in the files that the rules let through,
-- each once and in the order of names, whatever order the disk keeps them in, and it succeeds as
-- long as no path that it looks at is too long.
import CodeAtlas.Proofs.Disk.Content
import CodeAtlas.Proofs.Scan.Itinerary
import CodeAtlas.Proofs.Scan.OnDisk

namespace CodeAtlas

open Disk (IsName AreNames isTooLong)

/-! ## What the rules let through -/

namespace Settings

/-- The rules leave out none of the folders. -/
def enters (s : Settings) (folders : List String) : Prop :=
  ∀ folder ∈ folders, s.excludes folder true = false

/-- A file that is not left out, nor a folder that it lies in, stands at these names. -/
def Keeps (s : Settings) (d : Disk) (names : List String) : Prop :=
  ∃ folders name bytes, names = folders ++ [name] ∧ d.content? names = some (.file bytes) ∧
    s.enters folders ∧ s.excludes name false = false

/-- No path is too long that lies in the folder at `root`, or in a folder below that is not left
out. -/
def FindsShort (s : Settings) (root : List String) (d : Disk) : Prop :=
  ∀ folders name, (d.content? (folders ++ [name])).isSome → s.enters folders →
    isTooLong (root ++ folders ++ [name]) = false

variable {s : Settings} {d inside : Disk} {name : String} {rest : List String}

theorem enters_cons_iff (folders : List String) :
    s.enters (name :: folders) ↔ s.excludes name true = false ∧ s.enters folders :=
  List.forall_mem_cons

theorem keeps_file_iff {bytes : List UInt8} (hlookup : d.lookup name = some (.file bytes)) :
    s.Keeps d (name :: rest) ↔ rest = [] ∧ s.excludes name false = false := by
  unfold Keeps
  rw [Disk.content?_cons, hlookup]
  constructor
  · rintro ⟨folders, last, bytes', hnames, hcontent, -, hlast⟩
    cases rest with
    | nil =>
      cases folders with
      | nil =>
        cases hnames
        exact ⟨rfl, hlast⟩
      | cons folder folders => simp at hnames
    | cons next rest => simp [DiskItem.below?] at hcontent
  · rintro ⟨rfl, hlast⟩
    exact ⟨[], name, bytes, rfl, rfl, by simp [enters], hlast⟩

theorem keeps_folder_iff (hlookup : d.lookup name = some (.folder inside)) :
    s.Keeps d (name :: rest) ↔ s.excludes name true = false ∧ s.Keeps inside rest := by
  unfold Keeps
  rw [Disk.content?_folder hlookup]
  constructor
  · rintro ⟨folders, last, bytes, hnames, hcontent, henters, hlast⟩
    cases folders with
    | nil =>
      -- the name itself is that of a folder
      cases hnames
      simp [Disk.content?, DiskItem.below?, DiskItem.surface] at hcontent
    | cons folder folders =>
      cases hnames
      obtain ⟨hfolder, henters⟩ := (enters_cons_iff folders).1 henters
      exact ⟨hfolder, folders, last, bytes, rfl, hcontent, henters, hlast⟩
  · rintro ⟨hfolder, folders, last, bytes, rfl, hcontent, henters, hlast⟩
    exact ⟨name :: folders, last, bytes, rfl, hcontent, (enters_cons_iff folders).2
      ⟨hfolder, henters⟩, hlast⟩

/-- What is kept lies under the name of a file or of a folder. -/
theorem Keeps.exists_lookup (h : s.Keeps d (name :: rest)) :
    ∃ item, d.lookup name = some item ∧ item ≠ .deadLink := by
  obtain ⟨_, _, bytes, _, hcontent, -⟩ := h
  rw [Disk.content?_cons] at hcontent
  obtain ⟨item, hlookup, hitem⟩ := Option.bind_eq_some_iff.1 hcontent
  refine ⟨item, hlookup, ?_⟩
  rintro rfl
  cases rest <;> simp [DiskItem.below?, DiskItem.surface] at hitem

theorem findsShort_iff (hd : d.WellFormed) (root : List String) :
    s.FindsShort root d ↔ (∀ x ∈ d, isTooLong (root ++ [x.1]) = false) ∧
      ∀ name inside, d.lookup name = some (.folder inside) → s.excludes name true = false →
        s.FindsShort (root ++ [name]) inside := by
  constructor
  · intro h
    refine ⟨?_, ?_⟩
    · intro x hx
      have hlookup := (Register.lookup_eq_some_iff hd.nodup x.1 x.2).2 hx
      have hshort := h [] x.1 (by simp [Disk.content?_cons, hlookup, DiskItem.below?])
        (by simp [enters])
      simpa using hshort
    · intro name inside hlookup hkept folders last hsome henters
      have hshort := h (name :: folders) last
        (by rw [List.cons_append, Disk.content?_folder hlookup]; exact hsome)
        ((enters_cons_iff folders).2 ⟨hkept, henters⟩)
      simpa using hshort
  · rintro ⟨hhere, hbelow⟩ folders last hsome henters
    cases folders with
    | nil =>
      obtain ⟨item, hitem⟩ := Option.isSome_iff_exists.1 hsome
      rw [List.nil_append, Disk.content?_cons] at hitem
      obtain ⟨item, hlookup, -⟩ := Option.bind_eq_some_iff.1 hitem
      simpa using hhere (last, item) (Disk.mem_of_lookup hlookup)
    | cons name folders =>
      obtain ⟨hkept, henters⟩ := (enters_cons_iff folders).1 henters
      obtain ⟨found, hfound⟩ := Option.isSome_iff_exists.1 hsome
      rw [List.cons_append, Disk.content?_cons] at hfound
      obtain ⟨item, hlookup, hitem⟩ := Option.bind_eq_some_iff.1 hfound
      cases item with
      | file bytes => cases folders <;> simp [DiskItem.below?] at hitem
      | deadLink => cases folders <;> simp [DiskItem.below?] at hitem
      | folder inside =>
        have hshort := hbelow name inside hlookup hkept folders last
          (Option.isSome_iff_exists.2 ⟨found, hitem⟩) henters
        simpa using hshort

end Settings

namespace Scan

variable {s : Settings} {disk table d : Disk} {root path : List String} {n : Nat} {e : Entry}
  {es : List Entry} {events : List Event} {h : Harvest}

/-! ## The folders below the start -/

/-- The folder at `root` holds what is in the table, and all of it can be asked for. -/
structure Serves (disk : Disk) (root : List String) (table : Disk) : Prop where
  wellFormed : table.WellFormed
  namesFit : table.NamesFit
  at_root : disk.at? root = .ok (.folder table)

/-- The folder stands at `path` in the table. -/
def Holds (table : Disk) (path : List String) (d : Disk) : Prop :=
  (DiskItem.folder table).below? path = some (.folder d)

/-- What stands under a name in a folder of the table. -/
theorem Holds.below? (hd : Holds table path d) {name : String} {item : DiskItem}
    (hlookup : d.lookup name = some item) :
    (DiskItem.folder table).below? (path ++ [name]) = some item := by
  rw [DiskItem.below?_append, hd]
  show (DiskItem.folder d).below? [name] = some item
  rw [DiskItem.below?_folder, hlookup]
  rfl

theorem Serves.at? (hserves : Serves disk root table) {item : DiskItem}
    (hitem : (DiskItem.folder table).below? path = some item) (hlink : item ≠ .deadLink)
    (hshort : isTooLong (root ++ path) = false) : disk.at? (root ++ path) = .ok item := by
  obtain ⟨hnames, -⟩ := hserves.wellFormed.of_below? hitem
  obtain ⟨hfit, -⟩ := hserves.namesFit.of_below? hitem
  exact (Disk.at?_append_eq_ok_iff hserves.at_root hnames hfit item).2 ⟨hshort, hitem, hlink⟩

/-- A folder of the table is listed as it stands, if no path is too long. -/
theorem Serves.listFolder_eq_ok_iff (hserves : Serves disk root table) (hd : Holds table path d) :
    Provider.listFolder disk root path = .ok es ↔ isTooLong (root ++ path) = false ∧
      (∀ x ∈ d, isTooLong (root ++ path ++ [x.1]) = false) ∧
      es = d.sorted.filterMap (Provider.entryOfItem? path) := by
  obtain ⟨hnames, -⟩ := hserves.wellFormed.of_below? hd
  obtain ⟨hfit, -⟩ := hserves.namesFit.of_below? hd
  have hat := Disk.at?_append_eq_ok_iff hserves.at_root hnames hfit
  rw [Provider.listFolder_eq_ok_iff]
  constructor
  · rintro ⟨entries, hentries, hshort, hes⟩
    obtain ⟨hpath, hbelow, -⟩ := (hat _).1 hentries
    cases hd.symm.trans hbelow
    exact ⟨hpath, hshort, hes⟩
  · rintro ⟨hpath, hshort, hes⟩
    exact ⟨d, hserves.at? hd nofun hpath, hshort, hes⟩

/-- The entries are of items of the folder. -/
def OfFolder (path : List String) (d : Disk) (es : List Entry) : Prop :=
  ∀ e ∈ es, ∃ name item, d.lookup name = some item ∧
    Provider.entryOfItem? path (name, item) = some e

theorem mem_entries_iff (hd : d.WellFormed) :
    e ∈ d.sorted.filterMap (Provider.entryOfItem? path) ↔
      ∃ name item, d.lookup name = some item ∧
        Provider.entryOfItem? path (name, item) = some e := by
  rw [List.mem_filterMap]
  constructor
  · rintro ⟨⟨name, item⟩, hmem, hentry⟩
    have hmem := (Disk.sorted_perm d).subset hmem
    exact ⟨name, item, (Register.lookup_eq_some_iff hd.nodup name item).2 hmem, hentry⟩
  · rintro ⟨name, item, hlookup, hentry⟩
    exact ⟨(name, item), (Disk.sorted_perm d).symm.subset (Disk.mem_of_lookup hlookup), hentry⟩

theorem kind_of_file {name : String} {bytes : List UInt8}
    (hentry : Provider.entryOfItem? path (name, .file bytes) = some e) : e.kind = .file := by
  cases hentry
  rfl

theorem kind_of_folder {name : String} {inside : Disk}
    (hentry : Provider.entryOfItem? path (name, .folder inside) = some e) : e.kind = .folder := by
  cases hentry
  rfl

theorem excluded_file_iff {name : String} {bytes : List UInt8}
    (hentry : Provider.entryOfItem? path (name, .file bytes) = some e) (b : Bool) :
    (excluded s e).result = .ok b ↔ s.excludes name false = b := by
  cases hentry
  simp [excluded_eq_ok_iff, Entry.isExcluded, Json.isText, Json.text?]

theorem excluded_folder_iff {name : String} {inside : Disk}
    (hentry : Provider.entryOfItem? path (name, .folder inside) = some e) (b : Bool) :
    (excluded s e).result = .ok b ↔ s.excludes name true = b := by
  cases hentry
  simp [excluded_eq_ok_iff, Entry.isExcluded, Json.isText, Json.text?]

/-! ## The files that are found -/

/-- A file that is kept lies at the label, at or below the name of the entry. -/
def Yields (s : Settings) (path : List String) (d : Disk) (e : Entry) (label : Label) : Prop :=
  ∃ name rest, e.name = .text name ∧ s.Keeps d (name :: rest) ∧
    label = .text (Path.render (path ++ name :: rest))

/-- The paths of the files are those that the entries yield. -/
def Finds (s : Settings) (path : List String) (d : Disk) (es : List Entry)
    (nodes : List Project) : Prop :=
  ∀ label, label ∈ (nodes.flatMap Project.files).map Node.path ↔ ∃ e ∈ es, Yields s path d e label

theorem Finds.cons {first rest : List Project}
    (hfirst : ∀ label,
      label ∈ (first.flatMap Project.files).map Node.path ↔ Yields s path d e label)
    (hrest : Finds s path d es rest) : Finds s path d (e :: es) (first ++ rest) := by
  intro label
  rw [List.flatMap_append, List.map_append, List.mem_append, hfirst, hrest]
  simp

theorem Finds.skip {nodes : List Project} (hdropped : ∀ label, ¬ Yields s path d e label)
    (hnodes : Finds s path d es nodes) : Finds s path d (e :: es) nodes := by
  intro label
  rw [hnodes]
  simp [hdropped label]

theorem yields_file_iff {name : String} {bytes : List UInt8} {label : Label}
    (hlookup : d.lookup name = some (.file bytes))
    (hentry : Provider.entryOfItem? path (name, .file bytes) = some e) :
    Yields s path d e label ↔ s.excludes name false = false ∧ label = e.path := by
  obtain ⟨hname, hpath, -⟩ := Provider.entryOfItem?_eq_some hentry
  rw [hpath]
  constructor
  · rintro ⟨name', rest, hname', hkeeps, rfl⟩
    cases hname.symm.trans hname'
    obtain ⟨rfl, hkept⟩ := (Settings.keeps_file_iff hlookup).1 hkeeps
    exact ⟨hkept, rfl⟩
  · rintro ⟨hkept, rfl⟩
    exact ⟨name, [], hname, (Settings.keeps_file_iff hlookup).2 ⟨rfl, hkept⟩, rfl⟩

/-- The entries of a folder yield what is kept in it. -/
theorem exists_yields_iff {label : Label} (hd : d.WellFormed) :
    (∃ e ∈ d.sorted.filterMap (Provider.entryOfItem? path), Yields s path d e label) ↔
      ∃ names, s.Keeps d names ∧ label = .text (Path.render (path ++ names)) := by
  constructor
  · rintro ⟨e, -, name, rest, -, hkeeps, rfl⟩
    exact ⟨name :: rest, hkeeps, rfl⟩
  · rintro ⟨names, hkeeps, rfl⟩
    cases names with
    | nil =>
      obtain ⟨folders, _, _, hnil, -⟩ := hkeeps
      simp at hnil
    | cons name rest =>
      obtain ⟨item, hlookup, hlink⟩ := hkeeps.exists_lookup
      obtain ⟨e, hentry⟩ : ∃ e, Provider.entryOfItem? path (name, item) = some e := by
        cases item with
        | file bytes => exact ⟨_, rfl⟩
        | folder inside => exact ⟨_, rfl⟩
        | deadLink => exact absurd rfl hlink
      refine ⟨e, (mem_entries_iff hd).2 ⟨name, item, hlookup, hentry⟩, name, rest, ?_, hkeeps, rfl⟩
      exact (Provider.entryOfItem?_eq_some hentry).1

theorem yields_folder_iff {name : String} {inside : Disk} {label : Label}
    (hlookup : d.lookup name = some (.folder inside))
    (hentry : Provider.entryOfItem? path (name, .folder inside) = some e) :
    Yields s path d e label ↔ s.excludes name true = false ∧
      ∃ names, s.Keeps inside names ∧ label = .text (Path.render (path ++ [name] ++ names)) := by
  obtain ⟨hname, -, -⟩ := Provider.entryOfItem?_eq_some hentry
  simp only [List.append_assoc, List.singleton_append]
  constructor
  · rintro ⟨name', rest, hname', hkeeps, rfl⟩
    cases hname.symm.trans hname'
    obtain ⟨hkept, hrest⟩ := (Settings.keeps_folder_iff hlookup).1 hkeeps
    exact ⟨hkept, rest, hrest, rfl⟩
  · rintro ⟨hkept, rest, hkeeps, rfl⟩
    exact ⟨name, rest, hname, (Settings.keeps_folder_iff hlookup).2 ⟨hkept, hkeeps⟩, rfl⟩

/-- What lies under an entry that is left out is not found. -/
theorem not_yields_of_excluded (he : OfFolder path d [e])
    (hexcluded : (excluded s e).result = .ok true) (label : Label) : ¬ Yields s path d e label := by
  obtain ⟨name, item, hlookup, hentry⟩ := he e List.mem_cons_self
  cases item with
  | deadLink => cases hentry
  | file bytes =>
    rw [yields_file_iff hlookup hentry, (excluded_file_iff hentry true).1 hexcluded]
    simp
  | folder inside =>
    rw [yields_folder_iff hlookup hentry, (excluded_folder_iff hentry true).1 hexcluded]
    simp

theorem OfFolder.head (hes : OfFolder path d (e :: es)) : OfFolder path d [e] := by
  intro e' he'
  rw [List.mem_singleton.1 he']
  exact hes e List.mem_cons_self

theorem OfFolder.tail (hes : OfFolder path d (e :: es)) : OfFolder path d es :=
  fun e' he' => hes e' (List.mem_cons_of_mem _ he')

theorem ofFolder_entries (hd : d.WellFormed) :
    OfFolder path d (d.sorted.filterMap (Provider.entryOfItem? path)) :=
  fun _ he => (mem_entries_iff hd).1 he

theorem Serves.finds_of_gathers (hserves : Serves disk root table)
    (hgathers : Gathers s (.ofDisk disk root) n es events h) (hd : Holds table path d)
    (hes : OfFolder path d es) : Finds s path d es h.nodes := by
  induction hgathers generalizing path d with
  | nil => simp [Finds, Harvest.empty]
  | leftOut hexcluded _ ih =>
    exact (ih hd hes.tail).skip (not_yields_of_excluded hes.head hexcluded)
  | @other n e es later rest label _ hkind _ ih =>
    -- what is listed on a disk is a file or a folder
    obtain ⟨name, item, -, hentry⟩ := hes e List.mem_cons_self
    cases item <;> cases hentry <;> cases hkind
  | @file n e es events later h rest hkept hkind htakes _ ih =>
    obtain ⟨name, item, hlookup, hentry⟩ := hes e List.mem_cons_self
    obtain ⟨f, hnodes, htaken⟩ := htakes.takenFrom hkind
    rw [Harvest.nodes_append, hnodes]
    refine .cons ?_ (ih hd hes.tail)
    intro label
    cases item with
    | deadLink => cases hentry
    | folder inside => cases hentry; cases hkind
    | file bytes =>
      have hfile : Project.files (.node f []) = [f] := by
        simp [Project.files_node, htaken.isFileAt.1]
      rw [List.flatMap_singleton, hfile, yields_file_iff hlookup hentry]
      simp [htaken.isFileAt.2, (excluded_file_iff hentry false).1 hkept]
  | @folder n e es inside events later h rest hkept hkind hlist _ _ ihinside ih =>
    obtain ⟨name, item, hlookup, hentry⟩ := hes e List.mem_cons_self
    cases item with
    | deadLink => cases hentry
    | file bytes => cases hentry; cases hkind
    | folder items =>
      have hitems : Holds table (path ++ [name]) items := hd.below? hlookup
      obtain ⟨hnames, hwell⟩ := hserves.wellFormed.of_below? hitems
      obtain ⟨-, hpath, -⟩ := Provider.entryOfItem?_eq_some hentry
      rw [hpath, Provider.list_render hnames.areComponents] at hlist
      obtain ⟨-, -, rfl⟩ := (hserves.listFolder_eq_ok_iff hitems).1 hlist
      have hfinds := ihinside hitems (ofFolder_entries hwell)
      refine .cons ?_ (ih hd hes.tail)
      intro label
      rw [List.flatMap_singleton, Project.files_folder rfl, hfinds, exists_yields_iff hwell,
        yields_folder_iff hlookup hentry, (excluded_folder_iff hentry false).1 hkept]
      simp

/-! ## When a scan succeeds -/

theorem Serves.exists_takes (hserves : Serves disk root table) (hd : Holds table path d)
    {name : String} {bytes : List UInt8} (hlookup : d.lookup name = some (.file bytes))
    (hentry : Provider.entryOfItem? path (name, .file bytes) = some e)
    (hshort : isTooLong (root ++ path ++ [name]) = false) :
    ∃ events h, Takes s (.ofDisk disk root) e events h := by
  have hbelow := hd.below? hlookup
  obtain ⟨hname, hpath, htarget⟩ := Provider.entryOfItem?_eq_some hentry
  cases hdialect : Dialect.ofPath? name with
  | none => exact ⟨_, _, .plain hname hdialect⟩
  | some dialect =>
    obtain ⟨hnames, -⟩ := hserves.wellFormed.of_below? hbelow
    rw [List.append_assoc] at hshort
    have hat := hserves.at? hbelow nofun hshort
    have hfetch : (Provider.ofDisk disk root).textOf e.target = .ok (Provider.fileText bytes) := by
      rw [htarget, hpath, Provider.textOf_render hnames.areComponents]
      exact (Provider.textAt_eq_ok_iff _ _ _).2 ⟨bytes, hat, rfl⟩
    exact ⟨_, _, .source hname hdialect hfetch⟩

/-- Entries are gathered if the folders among them are. -/
theorem Serves.gathers_of_folders (hserves : Serves disk root table) (hd : Holds table path d)
    (hshort : ∀ x ∈ d, isTooLong (root ++ path ++ [x.1]) = false)
    (hfolders : ∀ name inside, d.lookup name = some (.folder inside) →
      s.excludes name true = false → ∃ m es events h, n = m + 1 ∧
        Provider.listFolder disk root (path ++ [name]) = .ok es ∧
        Gathers s (.ofDisk disk root) m es events h)
    (hes : OfFolder path d es) : ∃ events h, Gathers s (.ofDisk disk root) n es events h := by
  induction es with
  | nil => exact ⟨_, _, .nil⟩
  | cons e es ih =>
    obtain ⟨later, rest, hrest⟩ := ih hes.tail
    obtain ⟨name, item, hlookup, hentry⟩ := hes e List.mem_cons_self
    cases item with
    | deadLink => cases hentry
    | file bytes =>
      cases hrules : s.excludes name false with
      | true => exact ⟨_, _, .leftOut ((excluded_file_iff hentry true).2 hrules) hrest⟩
      | false =>
        have hkept := (excluded_file_iff hentry false).2 hrules
        obtain ⟨events, h, htakes⟩ := hserves.exists_takes hd hlookup hentry
          (hshort _ (Disk.mem_of_lookup hlookup))
        exact ⟨_, _, .file hkept (kind_of_file hentry) htakes hrest⟩
    | folder inside =>
      cases hrules : s.excludes name true with
      | true => exact ⟨_, _, .leftOut ((excluded_folder_iff hentry true).2 hrules) hrest⟩
      | false =>
        have hkept := (excluded_folder_iff hentry false).2 hrules
        obtain ⟨m, listed, events, h, rfl, hlist, hinside⟩ := hfolders name inside hlookup hrules
        obtain ⟨hnames, -⟩ := hserves.wellFormed.of_below? (hd.below? hlookup)
        obtain ⟨-, hpath, -⟩ := Provider.entryOfItem?_eq_some hentry
        rw [← Provider.list_render hnames.areComponents, ← hpath] at hlist
        exact ⟨_, _, .folder hkept (kind_of_folder hentry) hlist hinside hrest⟩

theorem Serves.gathers_of_findsShort (hserves : Serves disk root table) (hd : Holds table path d)
    (hdepth : d.depth ≤ n + 1) (hshort : s.FindsShort (root ++ path) d)
    (hes : OfFolder path d es) : ∃ events h, Gathers s (.ofDisk disk root) n es events h := by
  induction n generalizing path d es with
  | zero =>
    obtain ⟨hhere, -⟩ := (Settings.findsShort_iff (hserves.wellFormed.of_below? hd).2 _).1 hshort
    refine hserves.gathers_of_folders hd hhere ?_ hes
    intro name inside hlookup _
    have hdeeper := Disk.itemDepth_lt_depth (Disk.mem_of_lookup hlookup)
    have hpos := Disk.one_le_depth inside
    simp only [Disk.itemDepth] at hdeeper
    omega
  | succ n ih =>
    obtain ⟨hhere, hbelow⟩ :=
      (Settings.findsShort_iff (hserves.wellFormed.of_below? hd).2 _).1 hshort
    refine hserves.gathers_of_folders hd hhere ?_ hes
    intro name inside hlookup hrules
    have hinside : Holds table (path ++ [name]) inside := hd.below? hlookup
    obtain ⟨-, hwell⟩ := hserves.wellFormed.of_below? hinside
    have hbelow := hbelow name inside hlookup hrules
    have hhere' := hhere _ (Disk.mem_of_lookup hlookup)
    rw [List.append_assoc] at hbelow hhere'
    have hlist := (hserves.listFolder_eq_ok_iff hinside).2
      ⟨hhere', ((Settings.findsShort_iff hwell _).1 hbelow).1, rfl⟩
    have hdeeper := Disk.itemDepth_lt_depth (Disk.mem_of_lookup hlookup)
    simp only [Disk.itemDepth] at hdeeper
    obtain ⟨events, h, hgathers⟩ := ih hinside (by omega) hbelow (ofFolder_entries hwell)
    exact ⟨n, _, events, h, rfl, hlist, hgathers⟩

/-- A folder that was gone through has no path in it that is too long. -/
theorem Serves.findsShort_of_gathers (hserves : Serves disk root table)
    (hgathers : Gathers s (.ofDisk disk root) n es events h) (hd : Holds table path d)
    {name : String} {inside : Disk} (hlookup : d.lookup name = some (.folder inside))
    (hrules : s.excludes name true = false)
    (hlisted : ∃ e ∈ es, Provider.entryOfItem? path (name, .folder inside) = some e) :
    s.FindsShort (root ++ path ++ [name]) inside := by
  induction hgathers generalizing path d name inside with
  | nil =>
    obtain ⟨e', he', -⟩ := hlisted
    cases he'
  | leftOut hexcluded _ ih =>
    obtain ⟨e', he', hentry⟩ := hlisted
    rcases List.mem_cons.1 he' with rfl | he'
    · cases hrules.symm.trans ((excluded_folder_iff hentry true).1 hexcluded)
    · exact ih hd hlookup hrules ⟨e', he', hentry⟩
  | other _ hkind _ ih =>
    obtain ⟨e', he', hentry⟩ := hlisted
    rcases List.mem_cons.1 he' with rfl | he'
    · cases hkind.symm.trans (kind_of_folder hentry)
    · exact ih hd hlookup hrules ⟨e', he', hentry⟩
  | file _ hkind _ _ ih =>
    obtain ⟨e', he', hentry⟩ := hlisted
    rcases List.mem_cons.1 he' with rfl | he'
    · cases hkind.symm.trans (kind_of_folder hentry)
    · exact ih hd hlookup hrules ⟨e', he', hentry⟩
  | folder _ _ hlist _ _ ihinside ih =>
    obtain ⟨e', he', hentry⟩ := hlisted
    rcases List.mem_cons.1 he' with rfl | he'
    · have hinside : Holds table (path ++ [name]) inside := hd.below? hlookup
      obtain ⟨hnames, hwell⟩ := hserves.wellFormed.of_below? hinside
      obtain ⟨-, hpath, -⟩ := Provider.entryOfItem?_eq_some hentry
      rw [hpath, Provider.list_render hnames.areComponents] at hlist
      obtain ⟨-, hshort, rfl⟩ := (hserves.listFolder_eq_ok_iff hinside).1 hlist
      rw [List.append_assoc]
      refine (Settings.findsShort_iff hwell _).2 ⟨hshort, ?_⟩
      intro next below hnext hkept
      exact ihinside hinside hnext hkept ⟨_, (mem_entries_iff hwell).2 ⟨_, _, hnext, rfl⟩, rfl⟩
    · exact ih hd hlookup hrules ⟨e', he', hentry⟩

/-! ## The order of names -/

/-- What lies in a folder of a tree of entries is in the order of names. -/
theorem Itinerary.pairwise_children {t u : Tree Entry} (hdisk : disk.WellFormed)
    (ht : Itinerary s (.ofDisk disk root) t) (hu : u ∈ t.preorder)
    (hkind : u.label.kind = .file ∨ u.label.kind = .folder) :
    (u.children.map fun c => c.label.name).Pairwise Label.Precedes := by
  rcases hkind with hfile | hfolder
  · rw [ht.file u hu hfile]
    exact .nil
  · obtain ⟨es, hlist, hlabels⟩ := ht.folder u hu hfolder
    obtain ⟨start, -, hlists⟩ := Provider.exists_start hlist
    rw [hlists] at hlist
    have hes := (Provider.pairwise_listFolder hdisk hlist).filter (Entry.isTaken s)
    rw [← hlabels, List.pairwise_map] at hes
    exact List.pairwise_map.2 hes

/-- A project in the places of a tree of entries has its nodes in the order of names. -/
theorem Itinerary.pairwise_nodes {t : Tree Entry} {project : Project} (hdisk : disk.WellFormed)
    (ht : Itinerary s (.ofDisk disk root) t)
    (hplaces : t.map Entry.place = project.map Node.place) :
    ∀ v ∈ project.preorder,
      (v.children.map fun c => c.label.name).Pairwise Label.Precedes := by
  intro v hv
  have hmem : v.map Node.place ∈ (t.map Entry.place).preorder := by
    rw [hplaces, Tree.preorder_map]
    exact List.mem_map_of_mem hv
  rw [Tree.preorder_map] at hmem
  obtain ⟨u, hu, hplace⟩ := List.mem_map.1 hmem
  have hnames : (u.children.map fun c => c.label.name) = v.children.map fun c => c.label.name := by
    have hchildren := congrArg (fun w => w.children.map fun c => c.label.2.1) hplace
    simpa [Tree.children_map, Tree.label_map, Function.comp_def, Entry.place, Node.place]
      using hchildren
  have hkind : u.label.kind = .file ∨ u.label.kind = .folder := by
    have hlabel := congrArg (fun w => w.label.1) hplace
    simp only [Tree.label_map, Entry.place, Node.place] at hlabel
    rw [hlabel]
    cases v.label.kind <;> simp [NodeKind.asEntry]
  rw [← hnames]
  exact ht.pairwise_children hdisk hu hkind

/-! ## What a scan finds -/

/-- A folder can only be found at a path that is not too long. -/
theorem isTooLong_of_at? {item : DiskItem} (hat : disk.at? path = .ok item) :
    isTooLong path = false := by
  unfold Disk.at? at hat
  split at hat
  · cases hat
  · split at hat
    · cases hat
    · rename_i hshort
      simpa using hshort

theorem Serves.list_top_iff (hserves : Serves disk root table) :
    (Provider.ofDisk disk root).list (.text "") = .ok es ↔
      (∀ x ∈ table, isTooLong (root ++ [x.1]) = false) ∧
        es = table.sorted.filterMap (Provider.entryOfItem? []) := by
  have htop : Holds table [] table := rfl
  have hlist : Provider.listFolder disk root [] = .ok es ↔ _ := hserves.listFolder_eq_ok_iff htop
  simp only [List.append_nil, isTooLong_of_at? hserves.at_root, true_and] at hlist
  exact hlist

theorem Serves.exists_run_iff (hserves : Serves disk root table) :
    (∃ scan, (run s (.ofDisk disk root) (.text "")).result = .ok scan) ↔
      s.FindsShort root table := by
  have htop : Holds table [] table := rfl
  rw [Settings.findsShort_iff hserves.wellFormed]
  constructor
  · rintro ⟨scan, hrun⟩
    obtain ⟨n, name, es, later, h, -, -, hes, hgathers, -⟩ :=
      (run_gives_iff s _ _ _ scan).1 (Run.gives_of_result hrun)
    obtain ⟨hhere, rfl⟩ := hserves.list_top_iff.1 hes
    refine ⟨hhere, ?_⟩
    intro name inside hlookup hrules
    have hshort := hserves.findsShort_of_gathers hgathers htop hlookup hrules
      ⟨_, (mem_entries_iff hserves.wellFormed).2 ⟨_, _, hlookup, rfl⟩, rfl⟩
    rwa [List.append_nil] at hshort
  · intro hshort
    have hdepth : table.depth ≤ disk.depth + 1 :=
      Nat.le_succ_of_le (Disk.itemDepth_le_of_at? hserves.at_root)
    have hfinds : s.FindsShort (root ++ []) table := by
      rw [List.append_nil]
      exact (Settings.findsShort_iff hserves.wellFormed root).2 hshort
    obtain ⟨events, h, hgathers⟩ := hserves.gathers_of_findsShort htop hdepth hfinds
      (ofFolder_entries hserves.wellFormed)
    have hgives := (run_gives_iff s (.ofDisk disk root) (.text "") _ _).2
      ⟨disk.depth, _, _, _, _, rfl, rfl, hserves.list_top_iff.2 ⟨hshort.1, rfl⟩, hgathers, rfl, rfl⟩
    exact ⟨_, congrArg Run.result hgives⟩

/-- The paths of a scanned project are all different, that of the start included. -/
theorem nodup_paths_of_gathers (hdisk : disk.WellFormed)
    (hlist : Provider.listFolder disk root [] = .ok es)
    (hgathers : Gathers s (.ofDisk disk root) n es events h) (name : Label) :
    ((Project.nodes (.node (folderNode s name (.text "")) h.nodes)).map Node.path).Nodup := by
  have htop : Path.AreComponents [] := Disk.areNames_nil.areComponents
  have hspread := spread_of_gathers hdisk hgathers htop (entriesAt_of_listFolder hdisk hlist)
  rw [Project.nodes_node, List.map_cons, List.nodup_cons]
  refine ⟨?_, hspread.nodup⟩
  intro hmem
  obtain ⟨m, hm, hpath⟩ := List.mem_map.1 hmem
  obtain ⟨e, -, first, hlies, below, hbelow, hunder⟩ := hspread.under m hm
  have hempty : Path.render (first :: below) = "" := Json.text.inj (hunder.symm.trans hpath)
  have hcomponents := Path.components_render (hlies.isName.cons hbelow).areComponents
  rw [hempty] at hcomponents
  cases hcomponents

/-- A scan of a folder on a disk succeeds exactly if no path that it looks at is too long. Then its
files are the files of the folder that the rules let through, every path occurs once, siblings are
in the order of their names; and the order in which the disk keeps its items does not matter. -/
theorem run_finds_every_file (s : Settings) (disk : Disk) (root : List String) (table : Disk)
    (hdisk : disk.WellFormed) (hfit : disk.NamesFit)
    (hroot : disk.at? root = .ok (.folder table)) :
    ((∃ scan, (run s (.ofDisk disk root) (.text "")).result = .ok scan) ↔
        s.FindsShort root table) ∧
      (∀ scan, (run s (.ofDisk disk root) (.text "")).result = .ok scan →
        (∀ label, label ∈ scan.project.files.map Node.path ↔
          ∃ folders name bytes, table.content? (folders ++ [name]) = some (.file bytes) ∧
            s.enters folders ∧ s.excludes name false = false ∧
            label = .text (Path.render (folders ++ [name]))) ∧
        (scan.project.files.map Node.path).Nodup ∧ (scan.project.nodes.map Node.path).Nodup ∧
        ∀ t ∈ scan.project.preorder,
          (t.children.map fun c => c.label.name).Pairwise Label.Precedes) ∧
      ∀ other : Disk, other.WellFormed → (∀ path, other.content? path = disk.content? path) →
        run s (.ofDisk other root) (.text "") = run s (.ofDisk disk root) (.text "") := by
  have hserves : Serves disk root table :=
    ⟨(Disk.itemWellFormed_folder _).1 (hdisk.of_at? hroot), hfit.of_at? hroot, hroot⟩
  refine ⟨hserves.exists_run_iff, ?_, ?_⟩
  · intro scan hrun
    obtain ⟨n, name, es, later, h, -, -, hlist, hgathers, -, rfl⟩ :=
      (run_gives_iff s _ _ _ scan).1 (Run.gives_of_result hrun)
    have hpaths := nodup_paths_of_gathers hdisk hlist hgathers name
    have hfiles := (List.filter_sublist (p := Node.isFile)).map Node.path |>.nodup hpaths
    obtain ⟨ts, htraced⟩ := traced_of_gathers hgathers
    have hitinerary := htraced.itinerary_folder (e := ⟨.folder, name, .text "", .null⟩) rfl hlist
    refine ⟨?_, hfiles, hpaths, hitinerary.pairwise_nodes hdisk ?_⟩
    · intro label
      obtain ⟨-, rfl⟩ := hserves.list_top_iff.1 hlist
      have htop : Holds table [] table := rfl
      have hfinds := hserves.finds_of_gathers hgathers htop (ofFolder_entries hserves.wellFormed)
      rw [Project.files_folder rfl, hfinds, exists_yields_iff hserves.wellFormed]
      constructor
      · rintro ⟨_, ⟨folders, last, bytes, rfl, hcontent, henters, hlast⟩, rfl⟩
        exact ⟨folders, last, bytes, hcontent, henters, hlast, rfl⟩
      · rintro ⟨folders, last, bytes, hcontent, henters, hlast, rfl⟩
        exact ⟨_, ⟨folders, last, bytes, rfl, hcontent, henters, hlast⟩, rfl⟩
    · rw [Tree.map, Tree.map, htraced.places]
      rfl
  · intro other hother hsame
    rw [Provider.ofDisk_same hother hdisk hsame]

/-- A folder with a source folder, one that the rules leave out, a link and a file, kept in no
order. -/
def shuffledFolder : Disk :=
  [("src", .folder [("b.ts", .file []), ("a.ts", .file [])]), ("gone", .deadLink),
    ("node_modules", .folder [("x.js", .file [])]), ("README.md", .file [])]

def shuffledDisk : Disk := [("proj", .folder shuffledFolder)]

theorem run_finds_every_file_shuffled :
    shuffledDisk.WellFormed ∧ shuffledDisk.NamesFit ∧
      shuffledDisk.at? ["proj"] = .ok (.folder shuffledFolder) ∧
      ∃ scan, (run smallFiles (.ofDisk shuffledDisk ["proj"]) (.text "")).result = .ok scan ∧
        .text "src/b.ts" ∈ scan.project.files.map Node.path ∧
        (scan.project.nodes.map Node.path).Nodup ∧
        ∀ t ∈ scan.project.preorder,
          (t.children.map fun c => c.label.name).Pairwise Label.Precedes := by
  have hwell : shuffledDisk.WellFormed := by
    simp [shuffledDisk, shuffledFolder, Disk.WellFormed, Disk.ItemWellFormed]
    decide
  have hfit : shuffledDisk.NamesFit := by
    simp [shuffledDisk, shuffledFolder, Disk.NamesFit, Disk.ItemNamesFit]
    decide
  have hat : shuffledDisk.at? ["proj"] = .ok (.folder shuffledFolder) := by
    rfl
  obtain ⟨hsucceeds, hscan, -⟩ := run_finds_every_file smallFiles _ _ _ hwell hfit hat
  have hshort : smallFiles.FindsShort ["proj"] shuffledFolder := by
    have hfolder : shuffledFolder.WellFormed := (Disk.itemWellFormed_folder _).1 (hwell.of_at? hat)
    refine (Settings.findsShort_iff hfolder _).2 ⟨by decide, ?_⟩
    intro name inside hlookup _
    have hinside := (Disk.itemWellFormed_folder _).1 (hfolder.of_lookup hlookup)
    have hmem := Disk.mem_of_lookup hlookup
    simp only [shuffledFolder, List.mem_cons, Prod.mk.injEq, reduceCtorEq, DiskItem.folder.injEq,
      and_false, false_or, or_false, List.not_mem_nil] at hmem
    rcases hmem with ⟨rfl, rfl⟩ | ⟨rfl, rfl⟩
    · refine (Settings.findsShort_iff hinside _).2 ⟨by decide, ?_⟩
      intro next below hnext
      simpa using Disk.mem_of_lookup hnext
    · refine (Settings.findsShort_iff hinside _).2 ⟨by decide, ?_⟩
      intro next below hnext
      simpa using Disk.mem_of_lookup hnext
  obtain ⟨scan, hrun⟩ := hsucceeds.2 hshort
  obtain ⟨hfiles, -, hpaths, horder⟩ := hscan scan hrun
  refine ⟨hwell, hfit, hat, scan, hrun, ?_, hpaths, horder⟩
  refine (hfiles _).2 ⟨["src"], "b.ts", [], rfl, ?_, by decide +kernel, by decide⟩
  intro folder hfolder
  rw [List.mem_singleton.1 hfolder]
  decide +kernel

/-- Into a folder and out of it again, some times over. -/
def detours : Nat → List String
  | 0 => []
  | n + 1 => "d" :: ".." :: detours n

def windingFolder : Disk := [("a.md", .file []), ("d", .folder [])]

def windingDisk : Disk := [("proj", .folder windingFolder)]

def windingRoot : List String := "proj" :: detours 818

theorem walkFrom_detours (above : List Disk) (n : Nat) :
    Disk.walkFrom above (.folder windingFolder) (detours n) = .ok (.folder windingFolder) := by
  induction n with
  | zero => rfl
  | succ n ih => exact ih

theorem utf8ByteSize_detours (first : String) (n : Nat) (rest : List String) :
    (Path.render (first :: (detours n ++ rest))).utf8ByteSize =
      5 * n + (Path.render (first :: rest)).utf8ByteSize := by
  induction n generalizing first with
  | zero => simp [detours]
  | succ n ih =>
    have hinto : "d".utf8ByteSize = 1 := by decide
    have hout : "..".utf8ByteSize = 2 := by decide
    simp only [detours, List.cons_append]
    rw [Path.utf8ByteSize_render_cons, Path.utf8ByteSize_render_cons, ih, hinto]
    cases rest with
    | nil =>
      rw [Path.render_singleton, Path.render_singleton, hout]
      omega
    | cons next rest =>
      rw [Path.utf8ByteSize_render_cons, Path.utf8ByteSize_render_cons, hout]
      omega

theorem notMem_detours (n : Nat) : ∀ step ∈ detours n, '\x00' ∉ step.toList := by
  induction n with
  | zero => simp [detours]
  | succ n ih =>
    unfold detours
    exact List.forall_mem_cons.2 ⟨by decide, List.forall_mem_cons.2 ⟨by decide, ih⟩⟩

theorem at?_detours {n : Nat} (hn : 5 * n + 4 ≤ Disk.maxPath) :
    windingDisk.at? ("proj" :: detours n) = .ok (.folder windingFolder) := by
  have hsize := utf8ByteSize_detours "proj" n []
  have hfour : "proj".utf8ByteSize = 4 := by decide
  rw [List.append_nil, Path.render_singleton, hfour] at hsize
  have hshort : isTooLong ("proj" :: detours n) = false := by
    simp [isTooLong, hsize, hn]
  have hnull : ("proj" :: detours n).any (fun step => step.toList.contains '\x00') = false := by
    simpa using notMem_detours n
  unfold Disk.at?
  rw [hnull, hshort]
  exact walkFrom_detours [windingDisk] n

theorem at?_windingRoot : windingDisk.at? windingRoot = .ok (.folder windingFolder) :=
  at?_detours (by decide)

theorem isTooLong_windingRoot : isTooLong (windingRoot ++ ["a.md"]) = true := by
  have hsize := utf8ByteSize_detours "proj" 818 ["a.md"]
  have hnine : (Path.render ["proj", "a.md"]).utf8ByteSize = 9 := by decide
  simp [isTooLong, windingRoot, hsize, hnine, Disk.maxPath]

/-- A path that is too long stops the scan of a folder that can be listed. -/
theorem long_path_stops_scan :
    windingDisk.WellFormed ∧ windingDisk.NamesFit ∧
      windingDisk.at? windingRoot = .ok (.folder windingFolder) ∧
      ∀ s scan, (run s (.ofDisk windingDisk windingRoot) (.text "")).result ≠ .ok scan := by
  have hwell : windingDisk.WellFormed := by
    simp [windingDisk, windingFolder, Disk.WellFormed, Disk.ItemWellFormed]
    decide
  have hfit : windingDisk.NamesFit := by
    simp [windingDisk, windingFolder, Disk.NamesFit, Disk.ItemNamesFit]
    decide
  refine ⟨hwell, hfit, at?_windingRoot, ?_⟩
  intro s scan hrun
  have hserves : Serves windingDisk windingRoot windingFolder :=
    ⟨(Disk.itemWellFormed_folder _).1 (hwell.of_at? at?_windingRoot), hfit.of_at? at?_windingRoot,
      at?_windingRoot⟩
  have hshort := hserves.exists_run_iff.1 ⟨scan, hrun⟩ [] "a.md" rfl (by simp [Settings.enters])
  rw [List.append_nil, isTooLong_windingRoot] at hshort
  cases hshort

end Scan

end CodeAtlas
