-- The import graph: which file of a project imports which other file.
import CodeAtlas.Project.Node
import CodeAtlas.Project.Note
import CodeAtlas.Register
import CodeAtlas.Source.Basic
import CodeAtlas.Text.Quoted

namespace CodeAtlas

/-! ## Specifiers: which of them point into the project, and at which path -/

namespace Specifier

/-- A specifier that starts with a dot points into the project; any other names a package. -/
def isRelative (specifier : String) : Bool := specifier.toList.head? = some '.'

/-- The number of steps up at the front of a specifier, and what follows them. -/
def climb : List Char → Nat × List Char
  | '.' :: '.' :: '/' :: rest => ((climb rest).1 + 1, (climb rest).2)
  | cs => (0, cs)

/-- Drops one step that stays in the folder. -/
def dropHere : List Char → List Char
  | '.' :: '/' :: rest => rest
  | cs => cs

/-- The folders on the way to a file. -/
def foldersOf (path : List Char) : List (List Char) := (Segments.split '/' path).dropLast

/-- The path that a relative specifier in the file at `path` points at. Every step up drops one
folder, and at the top there is none left to drop. -/
def targetOf (specifier path : List Char) : List Char :=
  let folders := foldersOf path
  let (steps, rest) := climb specifier
  if 0 < steps then
    Segments.join '/' (folders.take (folders.length - steps) ++ [rest])
  else
    let folder := Segments.join '/' folders
    if folder.isEmpty then dropHere specifier else folder ++ '/' :: dropHere specifier

/-- The path that a relative specifier points at. Nothing says that there is a file. -/
def target (specifier path : String) : String :=
  String.ofList (targetOf specifier.toList path.toList)

/-- A specifier that names a package where one into the project is needed. -/
structure NotRelative where
  specifier : String
  deriving DecidableEq

/-- How it is said that a specifier names a package. -/
def NotRelative.message (e : NotRelative) : String :=
  "Not a relative import: " ++ Quoted.quote e.specifier

/-- The path that a specifier in the file at `path` points at. -/
def resolve (specifier path : String) : Except NotRelative String :=
  if isRelative specifier then .ok (target specifier path) else .error ⟨specifier⟩

end Specifier

/-- The specifiers of the top-level imports of a file, in order. -/
def Source.specifiers (s : Source) : List String :=
  let sources := s.body.filterMap fun p : Phrase =>
    if p.kind = "import_statement" then
      (p.child? .source).filter fun source => source.kind = "string"
    else none
  (sources.map s.unquoted).filter (· ≠ "")

/-! ## The graph -/

/-- What becomes of a relative import: it leads to a file, to no file, or to a source file that
was not read. -/
inductive ImportResult where
  | found (path : String)
  | absent (specifier target : String)
  | unparsed (specifier path : String)
  deriving DecidableEq

namespace ImportResult

/-- The path of the file that was found. -/
def path? : ImportResult → Option String
  | found path => some path
  | _ => none

/-- What is to be noted about the import in the file at `path`. -/
def note? (path : String) : ImportResult → Option Note
  | found _ => none
  | absent specifier target => some (.unresolved specifier path target)
  | unparsed specifier target => some (.pointsAtUnparsed specifier path target)

end ImportResult

namespace Project

/-- Follows a relative import in the file at `path`. -/
def follow (p : Project) (path specifier : String) : ImportResult :=
  let target := Specifier.target specifier path
  match p.find? target with
  | none => .absent specifier target
  | some n =>
    if isSourceFile n.name.shown && n.source.isNone then .unparsed specifier n.path.shown
    else .found n.path.shown

def relativeSpecifiers (n : Node) : List String :=
  match n.source with
  | none => []
  | some source => source.specifiers.filter Specifier.isRelative

/-- What becomes of the relative imports of a node, in order. -/
def followAll (p : Project) (n : Node) : List ImportResult :=
  (relativeSpecifiers n).map (p.follow n.path.shown)

/-- A node with the imports that lead to files of the project. -/
def resolveImports (p : Project) (n : Node) : Node :=
  if n.isParsed then { n with imports := (p.followAll n).filterMap ImportResult.path? } else n

/-- The project with the imports of every file that was read. -/
def importGraph (p : Project) : Project := p.map p.resolveImports

/-- What is to be noted about the imports of a project, file by file. -/
def importNotes (p : Project) : List Note :=
  p.parsedFiles.flatMap fun n => (p.followAll n).filterMap (ImportResult.note? n.path.shown)

/-- The imports of each file that was read, by its path. -/
def adjacency (p : Project) : Register Label (List String) :=
  let paths := p.parsedFiles.map Node.path
  .ofList (p.parsedFiles.map fun n => (Label.firstOf paths n.path, n.imports))

/-! ## Labels that are no texts -/

/-- The first label that stops the imports of a node from being followed. -/
def followFault? (p : Project) (n : Node) : Option LabelFault :=
  (relativeSpecifiers n).findSome? fun specifier =>
    if n.path.isText then p.searchFault? (Specifier.target specifier n.path.shown)
    else some (.noFolders n.path)

/-- The first label that stops the imports of a project from being followed. -/
def importFault? (p : Project) : Option LabelFault := p.parsedFiles.findSome? p.followFault?

/-- The first path by which no imports can be listed. -/
def adjacencyFault? (p : Project) : Option LabelFault :=
  (p.parsedFiles.find? fun n => !n.path.isSimple).map fun n => .notSimple n.path

end Project

end CodeAtlas
