-- Which files of a disk are too large. The limit is held against the bytes of the text and not
-- against those of the file: a carriage return before a line feed does not count, and bytes that
-- are no UTF-8 count as the mark that is shown for them.
import CodeAtlas.Proofs.Scan.OnDisk
import CodeAtlas.Proofs.Text.Decoding

namespace CodeAtlas.Scan

open Utf8 (carriageReturn)

variable {s : Settings} {disk : Disk} {root : List String} {start : Label} {scan : Scan} {f : Node}

/-- The file is recorded as one that is too large. -/
def RecordedTooLarge (scan : Scan) (f : Node) : Prop :=
  ∃ size, ⟨f.path, .tooLarge size⟩ ∈ scan.problems

/-- The bytes of the text of a file, by the bytes of the file. -/
theorem byteCount_fileText (bytes : List UInt8) :
    (byteCount (Provider.fileText bytes) : Int) =
      bytes.length + Utf8.excess bytes - neighbours carriageReturn lineFeed bytes := by
  have hlength := Utf8.length_encode_unify_decodeLossy bytes
  have hcount : byteCount (Provider.fileText bytes) =
      (Utf8.encode (Lines.unify (Utf8.decodeLossy bytes))).length := by
    rw [byteCount, Provider.fileText, String.toList_ofList]
  omega

/-- A record of a file at a path is the record of the only file there. -/
theorem records_of_path (hdisk : disk.WellFormed)
    (hrun : (run s (.ofDisk disk root) start).result = .ok scan) (hf : f ∈ scan.project.files)
    {r : FileProblem} (hr : r ∈ scan.problems) (hpath : r.path = f.path) : Records s f r := by
  have hproblems := (agrees_of_run hrun).problems
  rw [List.flatMap_singleton] at hproblems
  obtain ⟨g, hg, hrecords⟩ := exists_of_mem_records hproblems hr
  have hsame : g = f :=
    (wellPlaced_of_run hdisk hrun).eq_of_path (List.mem_filter.1 hg).1 hf
      (hrecords.path.symm.trans hpath)
  rwa [hsame] at hrecords

/-- The record of a file that is too large has the number of bytes of its text. -/
theorem size_of_record (hdisk : disk.WellFormed)
    (hrun : (run s (.ofDisk disk root) start).result = .ok scan) (hf : f ∈ scan.project.files)
    {text : String} (htext : f.text = some text) {size : Nat}
    (hr : ⟨f.path, .tooLarge size⟩ ∈ scan.problems) :
    s.limit < byteCount text ∧ size = byteCount text := by
  obtain ⟨-, d, text', -, htext', hiff, hlarge, -⟩ := records_of_path hdisk hrun hf hr rfl
  cases htext.symm.trans htext'
  have hlimit := hiff.1 rfl
  exact ⟨hlimit, Problem.tooLarge.inj (hlarge hlimit)⟩

/-- A source file is recorded exactly if its text has too many bytes. -/
theorem recordedTooLarge_iff (hdisk : disk.WellFormed)
    (hrun : (run s (.ofDisk disk root) start).result = .ok scan) (hf : f ∈ scan.project.files)
    (hdialect : f.dialect?.isSome = true) {text : String} (htext : f.text = some text) :
    scan.RecordedTooLarge f ↔ s.limit < byteCount text := by
  constructor
  · rintro ⟨size, hr⟩
    exact (size_of_record hdisk hrun hf htext hr).1
  · intro hlimit
    have hunread : f.isUnread = true := by
      have hsource : ¬ f.source.isSome = true := by
        rw [(readAsListed_of_run hrun f hf).source_iff]
        rintro ⟨d, text', -, htext', hsize, -⟩
        cases htext.symm.trans htext'
        omega
      simpa [Node.isUnread, hdialect] using hsource
    obtain ⟨r, hfilter, hpath, d, text', -, htext', -, hlarge, -⟩ :=
      exists_record_of_run hdisk hrun hf hunread
    cases htext.symm.trans htext'
    have hr : r ∈ scan.problems := List.mem_of_mem_filter (hfilter ▸ List.mem_singleton_self r)
    refine ⟨byteCount text, ?_⟩
    rw [← hlarge hlimit, ← hpath]
    exact hr

/-- A source file on a disk is recorded as too large exactly if the bytes of its text are more than
the limit: the bytes of the file without the carriage returns that stand before a line feed, and
with three for each piece that is no UTF-8. Its record gives their number. So for a file that is
UTF-8 and has no such carriage return it is its own size that decides. -/
theorem too_large_by_text (s : Settings) (disk : Disk) (root : List String) (start : Label)
    (scan : Scan) (f : Node) (hdisk : disk.WellFormed)
    (hrun : (run s (.ofDisk disk root) start).result = .ok scan)
    (hf : f ∈ scan.project.files) (hdialect : f.dialect?.isSome = true) :
    ∃ path bytes, f.path = .text path ∧ disk.read (root ++ Path.components path) = .ok bytes ∧
      (scan.RecordedTooLarge f ↔ s.limit <
        bytes.length + Utf8.excess bytes - neighbours carriageReturn lineFeed bytes) ∧
      (∀ size : Nat, ⟨f.path, .tooLarge size⟩ ∈ scan.problems → (size : Int) =
        bytes.length + Utf8.excess bytes - neighbours carriageReturn lineFeed bytes) ∧
      ((∃ cs, bytes = Utf8.encode cs) → neighbours carriageReturn lineFeed bytes = 0 →
        (scan.RecordedTooLarge f ↔ s.limit < bytes.length)) := by
  obtain ⟨cs, name, bytes, hcomponents, -, hpath, hread, htext⟩ :=
    exists_bytes_of_run hdisk hrun hf hdialect
  have hiff := recordedTooLarge_iff hdisk hrun hf hdialect htext
  rw [byteCount_fileText] at hiff
  refine ⟨_, bytes, hpath, ?_, hiff, ?_, ?_⟩
  · rw [Path.components_render hcomponents]
    exact hread
  · intro size hr
    rw [(size_of_record hdisk hrun hf htext hr).2, byteCount_fileText]
  · rintro ⟨cs, rfl⟩ hpairs
    rw [hiff, hpairs, Utf8.excess_encode]
    simp

/-- Three names, each on a line of its own. -/
def namesReading : Reading where
  dialect := .typescript
  text := "a\nb\nc"
  rows :=
    [⟨0, "program", 0, ⟨0, 0⟩, 5, true, false, false, false, none⟩,
      ⟨1, "expression_statement", 0, ⟨0, 0⟩, 1, true, false, false, false, none⟩,
      ⟨2, "identifier", 0, ⟨0, 0⟩, 1, true, false, false, false, none⟩,
      ⟨1, "expression_statement", 2, ⟨1, 0⟩, 3, true, false, false, false, none⟩,
      ⟨2, "identifier", 2, ⟨1, 0⟩, 3, true, false, false, false, none⟩,
      ⟨1, "expression_statement", 4, ⟨2, 0⟩, 5, true, false, false, false, none⟩,
      ⟨2, "identifier", 4, ⟨2, 0⟩, 5, true, false, false, false, none⟩]

/-- Source files of at most five bytes. -/
def fiveBytes : Settings where
  grammar := .ofReadings [namesReading]
  rules := none
  limit := 5
  identify := id

/-- A remark of four bytes that ends in one that is no UTF-8. -/
def remarkBytes : List UInt8 := [0x2F, 0x2F, 0x20, 0xFF]

/-- Three names on lines that end in two bytes, seven bytes in all. -/
def namesBytes : List UInt8 := [0x61, 0x0D, 0x0A, 0x62, 0x0D, 0x0A, 0x63]

/-- A folder with both files. -/
def unevenFiles : Disk := [("a.ts", .file remarkBytes), ("b.ts", .file namesBytes)]

theorem wellFormed_unevenFiles : unevenFiles.WellFormed := by
  simp only [unevenFiles, Disk.WellFormed, Disk.ItemWellFormed]
  decide

theorem run_unevenFiles :
    ∃ scan a b, (run fiveBytes (.ofDisk unevenFiles []) (.text "")).result = .ok scan ∧
      scan.problems = [⟨.text "a.ts", .tooLarge 6⟩] ∧
      a ∈ scan.project.files ∧ a.path = .text "a.ts" ∧ a.dialect? = some .typescript ∧
      b ∈ scan.project.files ∧ b.path = .text "b.ts" ∧ b.dialect? = some .typescript := by
  have hgives := (run_gives_iff fiveBytes (.ofDisk unevenFiles []) (.text "") _ _).2
    ⟨_, _, _, _, _, rfl, rfl, Provider.list_top (by decide) (by decide),
      .file rfl rfl (.fetched rfl rfl rfl) (.file rfl rfl (.fetched rfl rfl rfl) .nil), rfl, rfl⟩
  refine ⟨_, _, _, congrArg Run.result hgives, by decide +kernel, List.mem_cons_self, rfl, rfl,
    List.mem_cons_of_mem _ List.mem_cons_self, rfl, rfl⟩

/-- The limit is held against the six bytes of the text of the remark. -/
theorem too_large_by_text_uneven :
    ∃ scan a, (run fiveBytes (.ofDisk unevenFiles []) (.text "")).result = .ok scan ∧
      a ∈ scan.project.files ∧ a.path = .text "a.ts" ∧
      unevenFiles.read ["a.ts"] = .ok remarkBytes ∧
      (scan.RecordedTooLarge a ↔ fiveBytes.limit < remarkBytes.length +
        Utf8.excess remarkBytes - neighbours carriageReturn lineFeed remarkBytes) := by
  obtain ⟨scan, a, -, hrun, -, ha, hpath, hdialect, -⟩ := run_unevenFiles
  obtain ⟨path, bytes, hpath', hread, hiff, -⟩ := too_large_by_text fiveBytes unevenFiles []
    (.text "") scan a wellFormed_unevenFiles hrun ha (by simp [hdialect])
  cases hpath.symm.trans hpath'
  have hremark : unevenFiles.read ["a.ts"] = .ok remarkBytes := by
    decide +kernel
  have hcomponents : Path.components "a.ts" = ["a.ts"] := by
    decide +kernel
  rw [hcomponents] at hread
  cases hremark.symm.trans hread
  exact ⟨scan, a, hrun, ha, hpath, hremark, hiff⟩

/-- The remark has fewer bytes than are allowed and is recorded, and the file with the names has
more and is not. -/
theorem size_of_file_does_not_decide :
    ∃ scan a b, (run fiveBytes (.ofDisk unevenFiles []) (.text "")).result = .ok scan ∧
      (a ∈ scan.project.files ∧ a.path = .text "a.ts" ∧ a.dialect?.isSome = true ∧
        unevenFiles.read ["a.ts"] = .ok remarkBytes ∧ remarkBytes.length < fiveBytes.limit ∧
        scan.RecordedTooLarge a) ∧
      b ∈ scan.project.files ∧ b.path = .text "b.ts" ∧ b.dialect?.isSome = true ∧
        unevenFiles.read ["b.ts"] = .ok namesBytes ∧ fiveBytes.limit < namesBytes.length ∧
        ¬ scan.RecordedTooLarge b := by
  obtain ⟨scan, a, b, hrun, hproblems, ha, hapath, hadialect, hb, hbpath, hbdialect⟩ :=
    run_unevenFiles
  refine ⟨scan, a, b, hrun, ⟨ha, hapath, by simp [hadialect], by decide +kernel, by decide, ?_⟩, hb,
    hbpath, by simp [hbdialect], by decide +kernel, by decide, ?_⟩
  · refine ⟨6, ?_⟩
    simp [hproblems, hapath]
  · rintro ⟨size, hmem⟩
    simp [hproblems, hbpath] at hmem

end CodeAtlas.Scan
