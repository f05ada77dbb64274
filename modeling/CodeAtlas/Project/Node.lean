-- Projects as trees of files and folders. Names and paths are labels, and files are found by paths
-- that may leave out the extension.
import CodeAtlas.Json.Value
import CodeAtlas.Source.Basic

namespace CodeAtlas

/-! ## Labels: names and paths of entries, and what their contents are asked for by -/

/-- A name, a path or a reference. It should be a text, but a listing may hold any value there. -/
abbrev Label := Json

namespace Label

theorem text_of_isText {label : Label} (h : label.isText = true) : ∃ s, label = .text s := by
  cases label with
  | text s => exact ⟨s, rfl⟩
  | _ => cases h

/-- The label with which it is compared. Truth values count as numbers. -/
def key : Label → Label
  | .bool b => .int (if b then 1 else 0)
  | label => label

/-- The first of some labels that counts as the same one. -/
def firstOf (labels : List Label) (label : Label) : Label :=
  (labels.find? fun other => key other = key label).getD label

/-- Only one text counts as the same as a text. -/
theorem key_eq_text_iff (label : Label) (s : String) : key label = .text s ↔ label = .text s := by
  cases label <;> simp [key]

/-- Texts are found as they are. -/
theorem firstOf_text (labels : List Label) (s : String) : firstOf labels (.text s) = .text s := by
  unfold firstOf
  cases h : labels.find? fun other => key other = key (.text s) with
  | none => rfl
  | some other =>
    have found := List.find?_some h
    exact (key_eq_text_iff other s).1 (of_decide_eq_true found)

end Label

/-- Why a label cannot be used: where a text is needed it is none; or as the path of a file that
imports others it has no folders; or as the path of a file that imports are listed by it has
parts. -/
inductive LabelFault where
  | notText (label : Label)
  | noFolders (label : Label)
  | notSimple (label : Label)
  deriving DecidableEq

namespace LabelFault

/-- The label that cannot be used. -/
def label : LabelFault → Label
  | notText label | noFolders label | notSimple label => label

/-- What is said of a label that cannot be used. -/
def message : LabelFault → String
  | notText label => "not a text: " ++ label.shown
  | noFolders label => "not a path: " ++ label.shown
  | notSimple label => "not a key: " ++ label.shown

end LabelFault

/-! ## Nodes -/

inductive NodeKind where
  | file
  | folder
  deriving DecidableEq

/-- How a kind is called. -/
def NodeKind.text : NodeKind → String
  | .file => "file"
  | .folder => "dir"

/-- What is known of one file or folder: a source file has its text, and its source if the text
could be read. Imports are paths of other files. -/
structure Node where
  id : String
  name : Label
  path : Label
  kind : NodeKind
  text : Option String := none
  source : Option Source := none
  imports : List String := []

namespace Node

def isFile (n : Node) : Bool := n.kind = .file

def isFolder (n : Node) : Bool := n.kind = .folder

/-- The node is a file whose source was read. -/
def isParsed (n : Node) : Bool := n.isFile && n.source.isSome

end Node

/-- A project: a node, with the nodes below it. -/
abbrev Project := Tree Node

namespace Project

/-- All nodes, each before those below it. -/
def nodes (p : Project) : List Node := p.preorder.map Tree.label

/-- All files, in reading order. -/
def files (p : Project) : List Node := p.nodes.filter Node.isFile

/-- All files whose source was read, in reading order. -/
def parsedFiles (p : Project) : List Node := p.files.filter Node.isParsed

end Project

/-! ## Finding files -/

namespace Extension

/-- The extensions that a path may leave out. -/
def known : List (List Char) := [".js".toList, ".jsx".toList, ".ts".toList, ".tsx".toList]

/-- What stands before an ending. -/
def before? (ending cs : List Char) : Option (List Char) :=
  if ending.isSuffixOf cs then some (cs.take (cs.length - ending.length)) else none

/-- Drops a known extension at the very end. -/
def dropAtEnd (cs : List Char) : List Char := (known.findSome? (before? · cs)).getD cs

/-- Drops a known extension at the end of the last line. -/
def drop (cs : List Char) : List Char :=
  if cs.getLast? = some '\n' then dropAtEnd cs.dropLast ++ ['\n'] else dropAtEnd cs

/-- A path without the extension of a source file. -/
def strip (path : String) : String := String.ofList (drop path.toList)

end Extension

/-- The paths are the same but for the extension of a source file. -/
def Node.matchesPath (n : Node) (path : String) : Bool :=
  n.path.text?.map Extension.strip = some (Extension.strip path)

namespace Project

mutual

/-- The first file with a path that is the same but for its extension. The search goes below
folders only. -/
def find? (path : String) : Project → Option Node
  | .node n ts =>
    if n.isFile && n.matchesPath path then some n
    else if n.isFolder then findAmong? path ts
    else none

/-- `find?` in several projects, one after the other. -/
def findAmong? (path : String) : List Project → Option Node
  | [] => none
  | t :: ts => (find? path t).or (findAmong? path ts)

end

/-- The search for a path meets a file whose own path is no text before it finds one. -/
def searchFault? (p : Project) (path : String) : Option LabelFault :=
  match p.files.find? fun n => !n.path.isText || n.matchesPath path with
  | some n => if n.path.isText then none else some (.notText n.path)
  | none => none

end Project

end CodeAtlas
