-- Scans, which read a project from a provider folder by folder, and analyses: a scan, then the
-- imports between its files, then their dependencies.
import CodeAtlas.Calls.Edge
import CodeAtlas.Exclusion.Rules
import CodeAtlas.Project.Dependencies
import CodeAtlas.Project.Imports
import CodeAtlas.Project.Note
import CodeAtlas.Report.Record
import CodeAtlas.Scan.Run
import CodeAtlas.Source.Grammar

namespace CodeAtlas

/-! ## Scans -/

/-- How a scan is done: how texts are read, by which rules entries are left out, if by any, how
many bytes a source file may have, and how the node at a path is identified. -/
structure Settings where
  grammar : Grammar
  rules : Option Exclusion.Rules
  limit : Int
  identify : String → String

/-- How many bytes a source file may have unless something else is said. -/
def defaultLimit : Int := 5000000

/-- What a caller can say about a scan: the rules, if not those of the template; whether anything is
to be left out at all; and how many bytes a source file may have. -/
structure Options where
  rules : Option Exclusion.Rules := none
  respectsRules : Bool := true
  limit : Int := defaultLimit

/-- The settings that a caller asks for. -/
def Options.settings (o : Options) (L : Exclusion.Library) (grammar : Grammar)
    (identify : String → String) : Except Exclusion.LoadError Settings := do
  let rules ← Exclusion.choose L o.respectsRules o.rules
  return ⟨grammar, rules, o.limit, identify⟩

/-- What a scan brings in: nodes, and the call edges and problems of the files among them. -/
structure Harvest where
  nodes : List Project
  edges : List CallEdge
  problems : List FileProblem

namespace Harvest

def empty : Harvest := ⟨[], [], []⟩

/-- One harvest after another. -/
def append (a b : Harvest) : Harvest :=
  ⟨a.nodes ++ b.nodes, a.edges ++ b.edges, a.problems ++ b.problems⟩

instance : Append Harvest := ⟨append⟩

end Harvest

structure Scan where
  project : Project
  edges : List CallEdge
  problems : List FileProblem

namespace Scan

/-- The node of a file that is not read. -/
def plainFile (s : Settings) (e : Entry) : Node where
  id := s.identify e.path.shown
  name := e.name
  path := e.path
  kind := .file

def folderNode (s : Settings) (name path : Label) : Node where
  id := s.identify path.shown
  name := name
  path := path
  kind := .folder

/-- A single node with its edges and problems. -/
def leaf (n : Node) (edges : List CallEdge) (problems : List FileProblem) : Harvest :=
  ⟨[.node n []], edges, problems⟩

/-- Reads the text of a source file. A file that is too large, or has a fault, is noted and adds
a problem instead of edges. -/
def readText (s : Settings) (e : Entry) (dialect : Dialect) (text : String) : Run Harvest :=
  let n := { plainFile s e with text := some text }
  let size := (Utf8.encode text.toList).length
  if s.limit < size then do
    Run.emit [.noted (.tooLarge e.path.shown size s.limit)]
    return leaf n [] [⟨e.path, .tooLarge size⟩]
  else
    match Source.read s.grammar dialect text with
    | .error f => do
      Run.emit [.noted (.faultFound e.path.shown f), .noted (.notParsed e.path.shown f)]
      return leaf n [] [⟨e.path, .faulty f⟩]
    | .ok source => return leaf { n with source := some source } source.callEdges []

/-- Goes on with a label that must be a text. -/
def withText {α : Type} (label : Label) (f : String → Run α) : Run α :=
  match label with
  | .text s => f s
  | _ => Run.fail (.label (.notText label))

/-- Takes in a file. Only source files are fetched. -/
def file (s : Settings) (p : Provider) (e : Entry) : Run Harvest :=
  withText e.name fun name =>
    match Dialect.ofPath? name with
    | none => return leaf (plainFile s e) [] []
    | some dialect => do readText s e dialect (← Run.fetch p e.target)

/-- The rules leave the entry out. -/
def excluded (s : Settings) (e : Entry) : Run Bool :=
  match s.rules with
  | none => return false
  | some rules => withText e.name fun name => return rules.excluded name (e.kind = .folder)

/-- Takes in an entry, when `folder` scans a folder. What is excluded is neither listed nor
fetched. -/
def entry (s : Settings) (p : Provider) (folder : Label → Run Harvest) (e : Entry) :
    Run Harvest := do
  if ← excluded s e then
    Run.emit [.noted (.excluded e.path.shown)]
    return .empty
  else
    match e.kind with
    | .file => do
      Run.emit [.reached e.name]
      file s p e
    | .folder => do
      let inside ← folder e.path
      return { inside with nodes := [.node (folderNode s e.name e.path) inside.nodes] }
    | .other _ => return .empty

/-- Takes in entries, one after the other. -/
def entries (s : Settings) (p : Provider) (folder : Label → Run Harvest) :
    List Entry → Run Harvest
  | [] => return .empty
  | e :: es => do
    let first ← entry s p folder e
    let rest ← entries s p folder es
    return first ++ rest

/-- Scans the folder at a path and what is below it, down to a depth. -/
def folder (s : Settings) (p : Provider) : Nat → Label → Run Harvest
  | 0, path => Run.fail (.tooDeep path)
  | depth + 1, path => do entries s p (folder s p depth) (← Run.list p path)

/-- The name of the folder that a scan starts from. A label that says nothing has none. -/
def startName (path : Label) : Run Label :=
  if path.isVoid then return .text "" else withText path fun s => return .text (Path.name s)

/-- Scans a project from a path on. -/
def run (s : Settings) (p : Provider) (path : Label) : Run Scan := do
  let name ← startName path
  let harvest ← folder s p p.depth path
  return ⟨.node (folderNode s name path) harvest.nodes, harvest.edges, harvest.problems⟩

end Scan

/-! ## Analyses -/

/-- All that is found out about a project. -/
structure Analysis where
  project : Project
  edges : List CallEdge
  dependencies : List Dependency
  problems : List FileProblem

namespace Analysis

/-- What is reached when all is done. -/
def complete : Label := .text "Parsing Complete"

/-- The analysis of a scanned project. -/
def ofScan (scan : Scan) : Analysis :=
  let project := scan.project.importGraph
  ⟨project, scan.edges, Dependency.among [project], scan.problems⟩

/-- How much an analysis has found. -/
def summary (a : Analysis) : Note :=
  .finished a.project.files.length a.edges.length a.dependencies.length a.problems.length

/-- What happens after the scan. -/
def closingEvents (scan : Scan) : List Event :=
  let analysis := ofScan scan
  (scan.project.importNotes ++ redeclarations (parsedFilesOf [analysis.project])
    ++ [analysis.summary]).map .noted
    ++ [.reached complete]

/-- Analyses a project from a path on. A label that is no text can stop the imports from being
followed. -/
def run (s : Settings) (p : Provider) (path : Label) : Run Analysis := do
  let scan ← Scan.run s p path
  match scan.project.importFault? with
  | some f => Run.fail (.label f)
  | none =>
    Run.emit (closingEvents scan)
    return ofScan scan

def toJson (a : Analysis) : Json :=
  .object
    [("tree", a.project.toJson), ("call_edges", .list (a.edges.map CallEdge.toJson)),
      ("dependencies", .list (a.dependencies.map Dependency.toJson)),
      ("errors", .list (a.problems.map FileProblem.toJson))]

end Analysis

end CodeAtlas
