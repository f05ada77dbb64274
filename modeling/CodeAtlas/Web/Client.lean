-- The web: addresses of repositories, what the web answers, and a client that asks for
-- repositories.
import CodeAtlas.Json.Value
import CodeAtlas.Provider
import CodeAtlas.Text.Segments

namespace CodeAtlas

/-! ## Addresses: an owner, a repository, and a path in it -/

/-- Where a project stands on the web. -/
structure Address where
  owner : String
  repo : String
  path : String
  deriving DecidableEq

/-- An address that names no repository. -/
structure BadAddress where
  url : String
  deriving DecidableEq

/-- How it is said that an address names no repository. -/
def BadAddress.message (e : BadAddress) : String := "Invalid GitHub URL format: " ++ e.url

namespace Address

/-- What every address starts with. -/
def site : List Char := "https://github.com/".toList

/-- The ways to cut a front off that holds only characters which pass. The shortest comes first. -/
def fronts (p : Char → Bool) : List Char → List (List Char × List Char)
  | [] => [([], [])]
  | c :: cs =>
    ([], c :: cs) :: if p c then (fronts p cs).map fun (front, rest) => (c :: front, rest) else []

/-- The ways to cut a part off that is not empty and ends before a slash. -/
def parts (cs : List Char) : List (List Char × List Char) := (fronts (· ≠ '/') cs).drop 1

/-- The ways to cut a path off: with the slash in front of it, or no path at all. -/
def paths (cs : List Char) : List (Option (List Char) × List Char) :=
  (match cs with
    | '/' :: rest => (fronts (· ≠ '\n') rest).map fun (path, rest) => (some path, rest)
    | _ => []) ++ [(none, cs)]

/-- What may be left at last: nothing, a slash, a line feed, or both. -/
def endings : List (List Char) := [[], ['\n'], ['/'], ['/', '\n']]

/-- The owner, the repository and the path of an address. The first way counts by which all of it is
used up, where the owner is as long, and the repository and the path are as short as can be. -/
def groups? (url : List Char) : Option (List Char × List Char × Option (List Char)) := do
  let rest ← site.isPrefixOf? url
  (parts rest).reverse.findSome? fun (owner, rest) => do
    let rest ← ['/'].isPrefixOf? rest
    (parts rest).findSome? fun (repo, rest) =>
      (paths rest).findSome? fun (path, rest) =>
        if rest ∈ endings then some (owner, repo, path) else none

/-- The parts of an address. Where there is no path, it is empty. -/
def parse (url : String) : Except BadAddress Address :=
  match groups? url.toList with
  | some (owner, repo, path) =>
    .ok ⟨String.ofList owner, String.ofList repo, String.ofList (path.getD [])⟩
  | none => .error ⟨url⟩

/-- The address names a repository. -/
def isValid (url : String) : Bool := (parse url).isOk

end Address

/-! ## Clients -/

/-- The content of an answer. -/
inductive Content where
  | json (j : Json)
  | bytes (bs : List UInt8)

namespace Content

/-- The content as text. Bytes that are no UTF-8 are marked. -/
def text : Content → String
  | json j => j.line
  | bytes bs => String.ofList (Utf8.decodeLossy bs)

def document (nesting : Nat) : Content → Except Json.DocumentFault Json
  | json j => .ok j
  | bytes bs => Json.ofBytes nesting bs

end Content

/-- What comes back for a request: an answer with a status, or nothing but a text that says why. -/
inductive Reply where
  | answer (status : Int) (content : Content)
  | failed (text : String)

/-- The library that sends requests and reads answers: which requests it does not send, to which it
does not take the answer, and how deep a document may be nested that it can read. -/
structure Transport where
  refusal? : String → Option Refusal
  answerRefusal? : String → Option Refusal
  nesting : Nat

/-- The web: how it is asked, and what it answers, by the text that is asked for. -/
structure Web where
  transport : Transport
  replies : List (String × Reply)

namespace Web

/-- The answer to a request. What is not there is answered as not found. -/
def reply (web : Web) (url : String) : Reply :=
  (web.replies.lookup url).getD (.answer 404 (.bytes []))

/-- Why a request cannot be made at all. -/
def requestFault? (web : Web) (request : Label) : Option Failure :=
  match request with
  | .text url => (web.transport.refusal? url).map .refused
  | _ => some (.label (.notText request))

/-- The content that a request brings, if it can be made and succeeds. -/
def get (web : Web) (request : Label) : Except Failure Content :=
  match web.requestFault? request with
  | some f => .error f
  | none =>
    match web.reply request.shown with
    | .failed text => .error (.unavailable request (.transport text))
    | .answer status content =>
      match web.transport.answerRefusal? request.shown with
      | some r => .error (.refused r)
      | none =>
        if 200 ≤ status && status < 300 then .ok content
        else .error (.unavailable request (.status status))

end Web

structure Repository where
  owner : String
  repo : String
  deriving DecidableEq

namespace Repository

/-- What is asked for to list a folder. -/
def listingUrl (r : Repository) (path : Label) : String :=
  "/repos/" ++ r.owner ++ "/" ++ r.repo ++ "/contents/" ++ path.shown

/-- A label that an object must hold. -/
def member (item : Json) (name : String) : Except Failure Label :=
  match item.get? name with
  | some label => .ok label
  | none => .error (.noMember name)

/-- The entry that an item of a listing stands for. Items that are neither files nor folders
stand for none. -/
def entryOf (item : Json) : Except Failure (Option Entry) :=
  match item with
  | .object _ =>
    match EntryKind.ofLabel ((item.get? "type").getD .null) with
    | .file => do
      let name ← member item "name"
      let path ← member item "path"
      return some ⟨.file, name, path, (item.get? "download_url").getD .null⟩
    | .folder => do
      let name ← member item "name"
      let path ← member item "path"
      return some ⟨.folder, name, path, .null⟩
    | .other _ => .ok none
  | _ => .error .notObject

/-- The entries of some items, up to the first item that is none. -/
def entriesOf : List Json → Except Failure (List Entry)
  | [] => .ok []
  | item :: rest => do
    let entry ← entryOf item
    let entries ← entriesOf rest
    return entry.toList ++ entries

/-- The entries of a listing. What is not a list is taken for its only item. -/
def listing (nesting : Nat) (content : Content) : Except Failure (List Entry) :=
  match content.document nesting with
  | .error f => .error (.document f)
  | .ok (.list items) => entriesOf items
  | .ok item => entriesOf [item]

/-- The entries of a folder. -/
def list (r : Repository) (web : Web) (path : Label) : Except Failure (List Entry) := do
  listing web.transport.nesting (← web.get (.text (r.listingUrl path)))

/-- The text that a reference leads to. -/
def fetch (r : Repository) (web : Web) (reference : Label) : Except Failure String := do
  if reference.isVoid then throw (.unavailable (.text r.repo) .noDownload)
  return (← web.get reference).text

end Repository

/-- Serves a repository on the web. -/
def Provider.ofRepository (web : Web) (r : Repository) : Provider where
  list := r.list web
  fetch reference := (r.fetch web reference).map .ofString
  depth := web.replies.length + 1

/-- What a client gives as a text can be encoded. -/
theorem Provider.textOf_ofRepository (web : Web) (r : Repository) (reference : Label) :
    (ofRepository web r).textOf reference = r.fetch web reference := textOf_of_map rfl

end CodeAtlas
