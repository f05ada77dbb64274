-- The records that a report is made of, and how each is written as JSON.
import CodeAtlas.Calls.Edge
import CodeAtlas.Json.Value
import CodeAtlas.Project.Dependencies
import CodeAtlas.Project.Note
import CodeAtlas.Register

namespace CodeAtlas

/-! ## Call edges -/

/-- A call edge as it is reported. -/
structure EdgeRecord where
  name : Json
  caller : Json
  line : Json
  column : Json
  resolved : Json
  source : Json

/-- How it is reported where a name comes from. -/
def Resolution.text : Resolution → String
  | .ownFunction => "local"
  | .imported _ => "imported"
  | .unknown => "unknown"

/-- The module that an imported name comes from. -/
def Resolution.source? : Resolution → Option String
  | .imported source => some source
  | _ => none

def CallEdge.record (e : CallEdge) : EdgeRecord where
  name := .text e.callee
  caller := .ofText? e.caller
  line := .int e.location.line
  column := .int e.location.column
  resolved := .text e.resolution.text
  source := .ofText? e.resolution.source?

/-- The record in JSON. The source is left out where there is none. -/
def EdgeRecord.toJson (r : EdgeRecord) : Json :=
  .object <|
    [("name", r.name), ("caller", r.caller),
      ("location", .object [("line", r.line), ("column", r.column)]), ("resolved", r.resolved)]
    ++ if r.source = .null then [] else [("source", r.source)]

def CallEdge.toJson (e : CallEdge) : Json := e.record.toJson

/-! ## Dependencies and problems -/

/-- A dependency as it is reported. -/
structure DependencyRecord where
  caller : Json
  callee : Json
  file : Json

def Dependency.record (d : Dependency) : DependencyRecord :=
  ⟨.text d.caller, .text d.callee, d.file⟩

def DependencyRecord.toJson (r : DependencyRecord) : Json :=
  .object [("caller", r.caller), ("callee", r.callee), ("file", r.file)]

def Dependency.toJson (d : Dependency) : Json := d.record.toJson

/-- A problem of a file as it is reported. -/
structure ProblemRecord where
  path : Json
  message : Json
  line : Json
  column : Json

def FileProblem.record (p : FileProblem) : ProblemRecord where
  path := p.path
  message := .text p.problem.message
  line := .ofInt? (p.problem.location?.map fun l => (l.line : Int))
  column := .ofInt? (p.problem.location?.map fun l => (l.column : Int))

def ProblemRecord.toJson (r : ProblemRecord) : Json :=
  .object [("path", r.path), ("message", r.message), ("line", r.line), ("column", r.column)]

def FileProblem.toJson (p : FileProblem) : Json := p.record.toJson

/-! ## Projects -/

/-- What is reported of every node. -/
def Node.heading (n : Node) : List (String × Json) :=
  [("id", .text n.id), ("name", n.name), ("path", n.path), ("type", .text n.kind.text)]

namespace Project

mutual

/-- A project in JSON: a file with its imports, a folder with what is in it. -/
def toJson : Project → Json
  | .node n ts =>
    if n.isFile then
      .object (n.heading ++ [("imports", .ofTexts n.imports), ("parsed", .bool n.source.isSome)])
    else .object (n.heading ++ [("contents", .list (toJsonAll ts))])

/-- `toJson` of several projects. -/
def toJsonAll : List Project → List Json
  | [] => []
  | t :: ts => toJson t :: toJsonAll ts

end

end Project

/-- A label as the name of a member. -/
def memberName : Label → String
  | .text s => s
  | label => label.line

/-- The imports of every file in JSON. -/
def adjacencyJson (r : Register Label (List String)) : Json :=
  .object (r.entries.map fun (path, imports) => (memberName path, .ofTexts imports))

end CodeAtlas
