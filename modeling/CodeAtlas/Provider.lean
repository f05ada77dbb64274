-- Providers: where a run gets the entries of folders and the texts of files from.
import CodeAtlas.Disk
import CodeAtlas.Json.Reader
import CodeAtlas.Project.Node
import CodeAtlas.Text.Quoted
import CodeAtlas.Text.Segments

namespace CodeAtlas

/-- What an entry of a folder is. Entries that are neither files nor folders are passed over. -/
inductive EntryKind where
  | file
  | folder
  | other (label : Label)
  deriving DecidableEq

namespace EntryKind

/-- How a kind of entry is called. -/
def label : EntryKind → Label
  | file => .text "file"
  | folder => .text "dir"
  | other label => label

/-- The kind that is called so. -/
def ofLabel (label : Label) : EntryKind :=
  if label = .text "file" then file
  else if label = .text "dir" then folder
  else other label

end EntryKind

/-- An entry of a folder. The reference says how to ask for the content of a file, and may be
null. -/
structure Entry where
  kind : EntryKind
  name : Label
  path : Label
  reference : Label
  deriving DecidableEq

/-- How the content of an entry is asked for: by its reference, or by its path if it has none. -/
def Entry.target (e : Entry) : Label := if e.reference.isVoid then e.path else e.reference

/-- Why something cannot be had. -/
inductive Reason where
  | notFolder
  | disk (e : DiskError)
  | status (code : Int)
  | transport (text : String)
  | noDownload
  | noListing
  | noContent
  deriving DecidableEq

/-- How a reason is said. -/
def Reason.message : Reason → String
  | .notFolder => "not a directory"
  | .disk e => e.message
  | .status code => "HTTP " ++ toString code
  | .transport text => text
  | .noDownload => "file has no download URL"
  | .noListing => "no listing"
  | .noContent => "no content"

/-- What is wrong with a request: its address as a whole; a part of the name of its host, or a
character in it, the company of one or the direction of writing; characters that cannot be encoded;
or brackets. -/
inductive RefusalKind where
  | address
  | hostPart
  | character
  | company
  | direction
  | encoding
  | brackets
  deriving DecidableEq

/-- Why a client for the web does not send a request, or does not take its answer. -/
structure Refusal where
  kind : RefusalKind
  message : String
  deriving DecidableEq

/-- Why a provider does not answer, or its answer is of no use: what was asked for cannot be had, or
not even be looked for; or the request or its answer is refused; or the answer is no document, holds
something that is no object, or an object without a needed member; or a text cannot be encoded; or a
label is not what it must be; or the provider is closed; or folders are nested deeper than the
provider can hold. -/
inductive Failure where
  | unavailable (target : Label) (reason : Reason)
  | disk (e : DiskError)
  | refused (r : Refusal)
  | document (f : Json.DocumentFault)
  | notObject
  | noMember (name : String)
  | surrogates (f : EncodeFault)
  | label (f : LabelFault)
  | closed
  | tooDeep (path : Label)
  deriving DecidableEq

/-- How a failure is said. -/
def Failure.message : Failure → String
  | .unavailable target reason => "Failed to fetch " ++ target.shown ++ ": " ++ reason.message
  | .disk e => e.message
  | .refused r => r.message
  | .document f => f.message
  | .notObject => "not an object"
  | .noMember name => Quoted.quote name
  | .surrogates f => f.message
  | .label f => f.message
  | .closed => "Cannot send a request, as the client has been closed."
  | .tooDeep path => "folders are nested too deeply: " ++ path.shown

/-- Something that lists folders and fetches texts. No folder lies more than `depth` levels below
another, unless folders contain themselves. -/
structure Provider where
  list : Label → Except Failure (List Entry)
  fetch : Label → Except Failure RawText
  depth : Nat

namespace Provider

/-- The text that a provider has for a reference, if it can be encoded. -/
def textOf (p : Provider) (reference : Label) : Except Failure String := do
  let raw ← p.fetch reference
  raw.string.mapError .surrogates

theorem textOf_of_fetch {p : Provider} {reference : Label} {raw : RawText}
    (h : p.fetch reference = .ok raw) :
    p.textOf reference = raw.string.mapError .surrogates := by
  unfold textOf
  rw [h]
  rfl

theorem textOf_of_error {p : Provider} {reference : Label} {f : Failure}
    (h : p.fetch reference = .error f) : p.textOf reference = .error f := by
  unfold textOf
  rw [h]
  rfl

/-- Texts without surrogates are given as they are. -/
theorem textOf_of_map {p : Provider} {reference : Label} {text : Except Failure String}
    (h : p.fetch reference = text.map .ofString) : p.textOf reference = text := by
  cases text with
  | error f => exact textOf_of_error h
  | ok text =>
    rw [textOf_of_fetch h, RawText.string_ofString]
    rfl

/-- What can be encoded is what was fetched. -/
theorem textOf_eq_ok_iff (p : Provider) (reference : Label) (text : String) :
    p.textOf reference = .ok text ↔ p.fetch reference = .ok text := by
  cases hfetch : p.fetch reference with
  | error f => simp [textOf_of_error hfetch]
  | ok raw =>
    rw [textOf_of_fetch hfetch, Except.ok.injEq, ← raw.string_eq_ok_iff]
    cases raw.string with
    | ok s =>
      show (.ok s : Except Failure String) = .ok text ↔ _
      simp only [Except.ok.injEq]
    | error f => exact ⟨nofun, nofun⟩

/-! ## Folders on a disk -/

/-- The entry for an item in the folder at `path`. -/
def entryOfItem? (path : List String) : String × DiskItem → Option Entry
  | (name, .folder _) =>
    some ⟨.folder, .text name, .text (Path.render (path ++ [name])), .null⟩
  | (name, .file _) =>
    let label := Json.text (Path.render (path ++ [name]))
    some ⟨.file, .text name, label, label⟩
  | (_, .deadLink) => none

/-- The text of a file: bytes that are no UTF-8 are marked, and lines end in line feeds. -/
def fileText (bytes : List UInt8) : String :=
  String.ofList (Lines.unify (Utf8.decodeLossy bytes))

/-- The entries of the folder at a path below `root`. Each item is looked at by its whole path, so
that one whose path is too long stops the listing. -/
def listFolder (disk : Disk) (root path : List String) : Except Failure (List Entry) :=
  match disk.folder? (root ++ path) with
  | .error e => .error (.disk e)
  | .ok none => .error (.unavailable (.text (Path.render (root ++ path))) .notFolder)
  | .ok (some entries) =>
    match (entries.sorted.map fun x => root ++ path ++ [x.1]).find? Disk.isTooLong with
    | some long => .error (.disk (.tooLong (Path.render long)))
    | none => .ok (entries.sorted.filterMap (entryOfItem? path))

/-- The text of the file at a path. A path with a null byte is not even looked for. -/
def textAt (disk : Disk) (path : List String) : Except Failure String :=
  match disk.read path with
  | .ok bytes => .ok (fileText bytes)
  | .error .nullByte => .error (.disk .nullByte)
  | .error e => .error (.unavailable (.text (Path.render path)) (.disk e))

/-- Serves the folder at `root`. Paths of entries start from there. -/
def ofDisk (disk : Disk) (root : List String) : Provider where
  list path :=
    match path with
    | .text s => listFolder disk root (Path.components s)
    | _ => if path.isVoid then listFolder disk root [] else .error (.label (.notText path))
  fetch reference :=
    match reference with
    | .text s => (textAt disk (root ++ Path.components s)).map .ofString
    | _ => .error (.label (.notText reference))
  depth := disk.depth + 1

/-! ## Tables -/

/-- What a table has under a label. Only texts are found, and a label with parts is refused. -/
def lookUp {α : Type} (table : List (String × α)) (label : Label) (reason : Reason) :
    Except Failure α :=
  if label.isSimple then
    match label.text?.bind fun s => table.lookup s with
    | some a => .ok a
    | none => .error (.unavailable label reason)
  else .error (.label (.notSimple label))

/-- Serves listings and texts from tables. -/
def ofTables (listings : List (String × List Entry)) (contents : List (String × RawText)) :
    Provider where
  list path := lookUp listings path .noListing
  fetch reference := lookUp contents reference .noContent
  depth := listings.length + 1

end Provider

end CodeAtlas
