-- The texts of files on a disk. Whatever the bytes of a file are, its text ends lines in one way
-- only and is read back as it is when it is stored.
import CodeAtlas.Proofs.Disk.Content
import CodeAtlas.Text.Utf8

namespace CodeAtlas

namespace Lines

/-! ## Line ends by replacement -/

/-- Writes `c` for every `a` that has a `b` right after it, and for that `b`. -/
def replacePair (a b c : Char) : List Char → List Char
  | [] => []
  | [x] => [x]
  | x :: y :: rest =>
    if x = a ∧ y = b then c :: replacePair a b c rest else x :: replacePair a b c (y :: rest)

/-- Writes `c` for every `a`. -/
def replace (a c : Char) (cs : List Char) : List Char := cs.map fun x => if x = a then c else x

theorem replacePair_cons_of_ne {a b c x : Char} (h : x ≠ a) (cs : List Char) :
    replacePair a b c (x :: cs) = x :: replacePair a b c cs := by
  cases cs with
  | nil => rfl
  | cons y rest => rw [replacePair, if_neg fun hx => h hx.1]

/-- All line ends are written as line feeds when first the pairs and then the carriage returns that
are left are replaced. -/
theorem unify_eq_replace (cs : List Char) :
    unify cs = replace '\r' '\n' (replacePair '\r' '\n' '\n' cs) := by
  fun_induction unify cs with
  | case1 => rfl
  | case2 cs ih =>
    rw [replacePair, if_pos ⟨rfl, rfl⟩, ih]
    rfl
  | case3 cs hlone ih =>
    have hcons : replacePair '\r' '\n' '\n' ('\r' :: cs) =
        '\r' :: replacePair '\r' '\n' '\n' cs := by
      cases cs with
      | nil => rfl
      | cons c rest => rw [replacePair, if_neg fun hc => hlone rest (by rw [hc.2])]
    rw [hcons, ih]
    rfl
  | case4 c cs _ hc ih =>
    rw [replacePair_cons_of_ne hc, ih, replace, replace, List.map_cons, if_neg hc]

end Lines

/-! ## Storing -/

namespace Disk

theorem lookup_put_file {d : Disk} {name : String} {old : DiskItem}
    (h : d.lookup name = some old) (bytes : List UInt8) :
    (d.put [name] (.file bytes)).lookup name = some (.file bytes) := by
  simp [put, set, h, Register.lookup_replace]

theorem lookup_put_inside {d inside : Disk} {name next : String} {rest : List String}
    (h : d.lookup name = some (.folder inside)) (item : DiskItem) :
    (d.put (name :: next :: rest) item).lookup name =
      some (.folder (inside.put (next :: rest) item)) := by
  simp [put, h, Register.lookup_replace]

/-- A file that a walk along names finds is found with its new bytes after they are stored. -/
theorem walkFrom_put {path : List String} (hnames : AreNames path) {old : List UInt8}
    (bytes : List UInt8) {above : List Disk} (above' : List Disk) {d : Disk}
    (h : walkFrom above (.folder d) path = .ok (.file old)) :
    walkFrom above' (.folder (d.put path (.file bytes))) path = .ok (.file bytes) := by
  induction path generalizing above above' d with
  | nil => cases h
  | cons name rest ih =>
    obtain ⟨hname, hrest⟩ := List.forall_mem_cons.1 hnames
    by_cases hsize : name.utf8ByteSize ≤ maxComponent
    · rw [walkFrom_step hname.2 hsize] at h ⊢
      cases hlookup : d.lookup name with
      | none => simp [hlookup] at h
      | some item =>
        rw [hlookup] at h
        cases rest with
        | nil =>
          rw [lookup_put_file hlookup]
          rfl
        | cons next rest =>
          -- the walk goes on, so that it is a folder that has the name
          cases item with
          | file old => cases h
          | deadLink => cases h
          | folder inside =>
            rw [lookup_put_inside hlookup]
            exact ih hrest _ h
    · rw [walkFrom_long hname.2 (Nat.not_le.1 hsize)] at h
      cases h

theorem at?_of_read {d : Disk} {path : List String} {bytes : List UInt8}
    (h : d.read path = .ok bytes) : d.at? path = .ok (.file bytes) := by
  unfold read at h
  split at h <;> cases h
  assumption

theorem read_put {d : Disk} {path : List String} (hnames : AreNames path) {old : List UInt8}
    (h : d.read path = .ok old) (bytes : List UInt8) :
    (d.put path (.file bytes)).read path = .ok bytes := by
  have hat := at?_of_read h
  unfold at? at hat
  unfold read at?
  split at hat
  · cases hat
  · split at hat
    · cases hat
    · rename_i hnull hlong
      rw [if_neg hnull, if_neg hlong, walkFrom_put hnames bytes [] hat]

end Disk

/-! ## Texts -/

namespace Provider

open Disk (AreNames)

theorem toList_fileText (bytes : List UInt8) :
    (fileText bytes).toList = Lines.unify (Utf8.decodeLossy bytes) :=
  String.toList_ofList

/-- The text of a file is the text of its own bytes. -/
theorem fileText_encode_fileText (bytes : List UInt8) :
    fileText (Utf8.encode (fileText bytes).toList) = fileText bytes := by
  rw [toList_fileText, fileText, Utf8.decodeLossy_encode, Lines.unify_unify]
  rfl

theorem fetch_of_read {disk : Disk} {root : List String} {reference : String} {bytes : List UInt8}
    (h : disk.read (root ++ Path.components reference) = .ok bytes) :
    (ofDisk disk root).fetch (.text reference) = .ok (fileText bytes) := by
  rw [← textOf_eq_ok_iff, textOf_ofDisk, textAt, h]

/-- The text of a file has no carriage returns, and is read back as it is when it is stored in
place of the bytes it came from. If these bytes were the UTF-8 of some characters, the text is
these characters with a line feed for each pair of a carriage return and a line feed, and then for
each carriage return that is left. -/
theorem stored_text_is_read_back (disk : Disk) (root : List String) (reference : String)
    (bytes : List UInt8) (h : disk.read (root ++ Path.components reference) = .ok bytes) :
    ∃ text : String, (ofDisk disk root).fetch (.text reference) = .ok text ∧ '\r' ∉ text.toList ∧
      (AreNames (root ++ Path.components reference) →
        (ofDisk (disk.put (root ++ Path.components reference)
          (.file (Utf8.encode text.toList))) root).fetch (.text reference) = .ok text) ∧
      (∀ other : Disk,
        other.read (root ++ Path.components reference) = .ok (Utf8.encode text.toList) →
          (ofDisk other root).fetch (.text reference) = .ok text) ∧
      ∀ cs, bytes = Utf8.encode cs →
        text.toList = Lines.replace '\r' '\n' (Lines.replacePair '\r' '\n' '\n' cs) := by
  have hstored : ∀ other : Disk, other.read (root ++ Path.components reference) =
      .ok (Utf8.encode (fileText bytes).toList) →
        (ofDisk other root).fetch (.text reference) = .ok (fileText bytes) := by
    intro other hother
    rw [fetch_of_read hother, fileText_encode_fileText]
  refine ⟨fileText bytes, fetch_of_read h, ?_, ?_, hstored, ?_⟩
  · rw [toList_fileText]
    exact Lines.notMem_unify _
  · intro hnames
    exact hstored _ (Disk.read_put hnames h _)
  · rintro cs rfl
    rw [toList_fileText, Utf8.decodeLossy_encode, Lines.unify_eq_replace]

/-- A file whose bytes are no UTF-8: a sequence breaks off before a line end, and after the line end
a byte stands alone. -/
def brokenFile : Disk :=
  [("src", .folder [("a.ts", .file [0x61, 0xE6, 0x97, 0x0D, 0x0A, 0xFF, 0x0D])])]

/-- The bytes that break off and the byte that stands alone are marked, and both line ends are
written alike. -/
theorem stored_text_is_read_back_broken :
    brokenFile.read ["src", "a.ts"] = .ok [0x61, 0xE6, 0x97, 0x0D, 0x0A, 0xFF, 0x0D] ∧
      (ofDisk brokenFile ["src"]).fetch (.text "a.ts") = .ok "a\ufffd\n\ufffd\n" ∧
      (ofDisk (brokenFile.put ["src", "a.ts"]
        (.file (Utf8.encode "a\ufffd\n\ufffd\n".toList))) ["src"]).fetch (.text "a.ts") =
          .ok "a\ufffd\n\ufffd\n" := by
  have hread : brokenFile.read (["src"] ++ Path.components "a.ts") =
      .ok [0x61, 0xE6, 0x97, 0x0D, 0x0A, 0xFF, 0x0D] := by
    decide +kernel
  obtain ⟨text, hfetch, -, hput, -⟩ := stored_text_is_read_back brokenFile ["src"] "a.ts" _ hread
  have htext : (ofDisk brokenFile ["src"]).fetch (.text "a.ts") = .ok "a\ufffd\n\ufffd\n" := by
    decide +kernel
  have hsame := RawText.ofString_inj.1 (Except.ok.inj (htext.symm.trans hfetch))
  subst hsame
  have hcomponents : Path.components "a.ts" = ["a.ts"] := by
    decide +kernel
  rw [hcomponents] at hread hput
  exact ⟨hread, htext, hput (Disk.IsName.cons (by decide) (Disk.IsName.singleton (by decide)))⟩

end Provider

end CodeAtlas
