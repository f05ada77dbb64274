-- Dependencies between files by the names of functions: a top-level call of a name that
-- some file declares as a top-level function. Neither imports nor scopes are asked.
import CodeAtlas.Calls.Function
import CodeAtlas.Project.Node
import CodeAtlas.Project.Note
import CodeAtlas.Register

namespace CodeAtlas

/-- A top-level call in a file of a function that is declared in the project. -/
structure Dependency where
  caller : String
  callee : String
  file : Label
  deriving DecidableEq

/-- The file that declares a function. -/
structure Declarer where
  path : Label
  id : String
  deriving DecidableEq

namespace Source

/-- The names of the functions declared at the top level, in order. -/
def topLevelFunctions (s : Source) : List String :=
  (s.body.filter Phrase.isDeclaration).filterMap fun p : Phrase => (p.child? .name).map s.textOf

/-- The callee of a statement that is a call of a plain identifier. -/
def statementCallee? (statement : Phrase) : Option Phrase :=
  if statement.kind = "expression_statement" then
    match statement.namedChildren with
    | first :: _ =>
      if first.kind = "call_expression" then
        (first.child? .function).filter fun callee => callee.kind = "identifier"
      else none
    | [] => none
  else none

/-- The identifiers that the top-level statements call, in order. -/
def topLevelCalls (s : Source) : List String :=
  (s.body.filterMap statementCallee?).map s.textOf

end Source

namespace Node

/-- The functions that a file declares at its top level, each with the file. -/
def declarations (n : Node) : List (String × Declarer) :=
  match n.source with
  | none => []
  | some s => s.topLevelFunctions.map fun name => (name, ⟨n.path, n.id⟩)

/-- The identifiers that a file calls at its top level. -/
def topLevelCalls (n : Node) : List String :=
  match n.source with
  | none => []
  | some s => s.topLevelCalls

end Node

/-- Where each top-level function is declared. A name that is declared again keeps its place
and moves to the later file. -/
def functionIndex (files : List Node) : Register String Declarer :=
  .ofList (files.flatMap Node.declarations)

/-- The notes on names that are declared again, when `known` is what was declared before. -/
def redeclarationsFrom (known : Register String Declarer) : List (String × Declarer) → List Note
  | [] => []
  | (name, declarer) :: rest =>
    let later := redeclarationsFrom (known.put name declarer) rest
    match known.get? name with
    | some former => .redeclared name declarer.path.shown former.path.shown :: later
    | none => later

/-- The notes on names that are declared again. -/
def redeclarations (files : List Node) : List Note :=
  redeclarationsFrom .empty (files.flatMap Node.declarations)

/-- The dependencies between some files. -/
def Dependency.ofFiles (files : List Node) : List Dependency :=
  let index := functionIndex files
  files.flatMap fun n =>
    (n.topLevelCalls.filter fun name => (index.get? name).isSome).map
      fun name => ⟨name, name, n.path⟩

/-- The files of several projects whose source was read. -/
def parsedFilesOf (roots : List Project) : List Node := roots.flatMap Project.parsedFiles

/-- The dependencies within several projects taken together. -/
def Dependency.among (roots : List Project) : List Dependency :=
  Dependency.ofFiles (parsedFilesOf roots)

end CodeAtlas
