-- Snapshots: what a command can look at, written as JSON. The disk is a list of paths with
-- contents, the web a list of requests with replies, and the texts that the grammars have read come
-- with their phrases as indented lists.
import CodeAtlas.Command.Perform
import CodeAtlas.Exclusion.GitSyntax
import CodeAtlas.Text.Quoted
import CodeAtlas.Web.Url

/-! ## Identifiers of nodes -/

namespace CodeAtlas.Identifier

/-- The first number with more than thirty-two hexadecimal digits. -/
def bound : Nat := 0x100000000000000000000000000000000

/-- A number below `bound` that mixes all characters of a path. -/
def mix (path : String) : Nat :=
  path.toList.foldl (fun n c => (n * 0x1000000000000000000013B + c.toNat + 1) % bound)
    0x6C62272E07BB014262B821756295C58D

/-- The identifier of the node at a path: thirty-two hexadecimal digits. -/
def ofPath (path : String) : String := String.ofList (Quoted.hex 32 (mix path))

end CodeAtlas.Identifier

namespace CodeAtlas.Snapshot

/-! ## Bytes -/

/-- The bytes that pairs of hexadecimal digits stand for. -/
def hexBytes : List Char → List UInt8
  | a :: b :: rest =>
    .ofNat ((Json.hexDigit? a).getD 0 * 16 + (Json.hexDigit? b).getD 0) :: hexBytes rest
  | _ => []

/-- Bytes: a text stands for its UTF-8, and an object gives them in hexadecimal digits. -/
def bytes (j : Json) : List UInt8 :=
  match j with
  | .text s => Utf8.encode s.toList
  | _ => hexBytes (((j.get? "hex") >>= Json.text?).getD "").toList

/-! ## Disk -/

/-- What stands at a path. A path that ends in a slash is a folder, and a link may lead nowhere. -/
def diskItem (path : String) (content : Json) : DiskItem :=
  if path.toList.getLast? = some '/' then .folder []
  else if (content.get? "dangling").isSome then .deadLink
  else .file (bytes content)

/-- The disk with these files in a folder. -/
def disk (folder : List String) (files : Json) : Disk :=
  .ofItems ((folder, .folder []) :: (files.members?.getD []).map fun (path, content) =>
    (folder ++ Path.components path, diskItem path content))

/-! ## Web -/

/-- A reply: a text that says why there is none, or a status with JSON or bytes. -/
def reply (j : Json) : Reply :=
  match j.get? "fail", j.get? "json", j.get? "body" with
  | some text, _, _ => .failed (text.text?.getD "")
  | none, some value, _ => .answer status (.json value)
  | none, none, body => .answer status (.bytes ((body.map bytes).getD []))
where
  /-- The status of the reply. -/
  status : Int := ((j.get? "status") >>= Json.int?).getD 200

/-- The replies to requests. -/
def web (routes : Json) : Web :=
  .ofReplies ((routes.members?.getD []).map fun (url, j) => (url, reply j))

/-! ## Phrases -/

/-- Where the bytes stand that follow a point, and their end. -/
def pointsFrom (p : Point) : List UInt8 → List Point
  | [] => [p]
  | byte :: rest => p :: pointsFrom (p.next byte) rest

/-- A row of an indented list: depth, kind, first byte, byte after the last, marks, and role. The
marks are added up: named 1, missing 2, error 4, faulty 8. -/
def row (points : Array Point) (j : Json) : Option (Tree.Row Token) :=
  match j with
  | .list (.int depth :: .text kind :: .int start :: .int stop :: .int marks :: role) =>
    let has (mark : Nat) : Bool := marks.toNat / mark % 2 = 1
    some
      { depth := depth.toNat
        label :=
          { kind, start := start.toNat, stop := stop.toNat
            point := points.getD start.toNat ⟨0, 0⟩
            named := has 1, missing := has 2, error := has 4, faulty := has 8
            role := role.head? >>= Json.text? >>= Role.ofText? } }
  | _ => none

/-- A text with its phrases. -/
def reading (j : Json) : Option Reading := do
  let dialect ← j.get? "dialect" >>= Json.text? >>= Dialect.ofName?
  let text ← j.get? "text" >>= Json.text?
  let rows ← j.get? "nodes" >>= Json.list?
  let points := (pointsFrom ⟨0, 0⟩ (Utf8.encode text.toList)).toArray
  return ⟨dialect, text, rows.filterMap (row points)⟩

/-- The grammar that knows these texts. -/
def grammar (trees : Json) : Grammar := .ofReadings ((trees.list?.getD []).filterMap reading)

/-! ## The whole -/

/-- The member of an object, or null. -/
def part (j : Json) (name : String) : Json := (j.get? name).getD .null

/-- All that a snapshot lets a command look at. -/
def world (j : Json) (identify : String → String) : Command.World where
  disk := disk [] (part j "files")
  web := web (part j "routes")
  token := part j "token" |>.text?
  grammar := grammar (part j "trees")
  patterns := Exclusion.gitSyntax
  identify := identify
  letters := .refused

end CodeAtlas.Snapshot
