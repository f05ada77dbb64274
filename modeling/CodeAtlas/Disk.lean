-- A disk: folders that hold files, links that lead nowhere, and other folders.
import CodeAtlas.Path
import CodeAtlas.Text.Quoted
import CodeAtlas.Text.Utf8

namespace CodeAtlas

inductive DiskItem where
  | file (bytes : List UInt8)
  | deadLink
  | folder (entries : List (String × DiskItem))

/-- What stands in the folder that paths start from. -/
abbrev Disk := List (String × DiskItem)

/-- Why a path cannot be read. -/
inductive DiskError where
  | absent (path : String)
  | notFolder (path : String)
  | isFolder (path : String)
  | tooLong (path : String)
  | nullByte
  deriving DecidableEq

/-- How it is said that a path cannot be read. -/
def DiskError.message : DiskError → String
  | .absent path => "[Errno 2] No such file or directory: " ++ Quoted.quote path
  | .notFolder path => "[Errno 20] Not a directory: " ++ Quoted.quote path
  | .isFolder path => "[Errno 21] Is a directory: " ++ Quoted.quote path
  | .tooLong path => "[Errno 36] File name too long: " ++ Quoted.quote path
  | .nullByte => "embedded null byte"

namespace Disk

/-! ## Writing -/

/-- Puts an item under a name, in the place of what had the name. A folder that is there stays. -/
def set (entries : Disk) (name : String) (item : DiskItem) : Disk :=
  match item, entries.lookup name with
  | .folder [], some (.folder _) => entries
  | _, some _ => entries.map fun (n, i) => if n = name then (n, item) else (n, i)
  | _, none => entries ++ [(name, item)]

/-- Puts an item at a path. Folders on the way are made where they are missing. -/
def put (entries : Disk) : List String → DiskItem → Disk
  | [], _ => entries
  | [name], item => entries.set name item
  | name :: next :: rest, item =>
    let inside : Disk :=
      match entries.lookup name with
      | some (.folder inside) => inside
      | _ => []
    let filled := DiskItem.folder (put inside (next :: rest) item)
    match entries.lookup name with
    | some _ => entries.map fun (n, i) => if n = name then (n, filled) else (n, i)
    | none => entries ++ [(name, filled)]

/-- The disk that holds these items at these paths. -/
def ofItems (items : List (List String × DiskItem)) : Disk :=
  items.foldl (fun disk (path, item) => disk.put path item) []

/-! ## Reading -/

/-- Why a walk along a path ends early. -/
inductive Stop where
  | absent
  | notFolder
  | tooLong
  | nullByte
  deriving DecidableEq

/-- How many bytes a component may have. -/
def maxComponent : Nat := 255

/-- How many bytes a path may have. -/
def maxPath : Nat := 4095

/-- Goes along the components of a path from an item, with the folders above it nearest first.
What lies above the folder that paths start from is not known and seems empty. -/
def walkFrom (above : List Disk) (item : DiskItem) : List String → Except Stop DiskItem
  | [] =>
    match item with
    | .deadLink => .error .absent
    | _ => .ok item
  | step :: rest =>
    match item with
    | .file _ => .error .notFolder
    | .deadLink => .error .absent
    | .folder entries =>
      if step = ".." then
        match above with
        | [] => walkFrom [] (.folder []) rest
        | parent :: higher => walkFrom higher (.folder parent) rest
      else if maxComponent < step.utf8ByteSize then .error .tooLong
      else
        match entries.lookup step with
        | none => .error .absent
        | some next => walkFrom (entries :: above) next rest

/-- The path has more bytes than a path may have. -/
def isTooLong (path : List String) : Bool := maxPath < (Path.render path).utf8ByteSize

/-- The item at a path. A path with a null byte, or one that is too long as a whole, is refused
before the walk. -/
def at? (disk : Disk) (path : List String) : Except Stop DiskItem :=
  if path.any fun step => step.toList.contains '\x00' then .error .nullByte
  else if isTooLong path then .error .tooLong
  else walkFrom [] (.folder disk) path

/-- The item at a path, if there is one. Only a path that is too long is an error. -/
def find? (disk : Disk) (path : List String) : Except DiskError (Option DiskItem) :=
  match disk.at? path with
  | .ok item => .ok (some item)
  | .error .tooLong => .error (.tooLong (Path.render path))
  | .error _ => .ok none

/-- What is in the folder at a path, if there is a folder. -/
def folder? (disk : Disk) (path : List String) : Except DiskError (Option Disk) :=
  (disk.find? path).map fun
    | some (.folder entries) => some entries
    | _ => none

/-- The bytes of the file at a path. -/
def read (disk : Disk) (path : List String) : Except DiskError (List UInt8) :=
  match disk.at? path with
  | .ok (.file bytes) => .ok bytes
  | .ok (.folder _) => .error (.isFolder (Path.render path))
  | .ok .deadLink => .error (.absent (Path.render path))
  | .error .absent => .error (.absent (Path.render path))
  | .error .notFolder => .error (.notFolder (Path.render path))
  | .error .tooLong => .error (.tooLong (Path.render path))
  | .error .nullByte => .error .nullByte

/-- The entries of a folder in the order of their names. -/
def sorted (entries : Disk) : Disk := entries.mergeSort fun a b => a.1 ≤ b.1

mutual

/-- How many folders are nested at most in a folder, itself included. -/
def depth : Disk → Nat
  | [] => 1
  | (_, item) :: rest => max (itemDepth item + 1) (depth rest)

/-- How many folders are nested at most in an item, itself included. -/
def itemDepth : DiskItem → Nat
  | .folder entries => depth entries
  | .file _ => 0
  | .deadLink => 0

end

end Disk

end CodeAtlas
