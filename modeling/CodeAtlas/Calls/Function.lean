-- The functions of a source file that calls are counted for, and the names that the file knows.
import CodeAtlas.Register
import CodeAtlas.Source.Basic

namespace CodeAtlas

/-! ## Functions: declared, bound to a variable, or unnamed and exported -/

namespace Phrase

def isDeclaration (p : Phrase) : Bool :=
  ["function_declaration", "generator_function_declaration"].contains p.kind

/-- The phrase is a function as a value. The bare word that starts one is none. -/
def isFunctionValue (p : Phrase) : Bool :=
  p.named
    && ["function_expression", "function", "generator_function", "arrow_function"].contains p.kind

mutual

/-- The phrase inside all parentheses around it. Parentheses that hold several phrases, or
none, are left as they are. -/
def unwrap : Phrase → Phrase
  | .node t ps =>
    if t.kind = "parenthesized_expression" then (unwrapOnly ps).getD (.node t ps)
    else .node t ps

/-- `unwrap` of the only phrase in a list that is more than words, signs and comments. -/
def unwrapOnly : List Phrase → Option Phrase
  | [] => none
  | p :: ps =>
    if isContent p then if ps.any isContent then none else some (unwrap p)
    else unwrapOnly ps

end

/-- The name and the function of a declarator that binds a variable to a function. -/
def bound? (declarator : Phrase) : Option (Phrase × Phrase) :=
  match declarator.child? .name, declarator.child? .value with
  | some name, some value =>
    if name.kind = "identifier" && value.unwrap.isFunctionValue then some (name, value.unwrap)
    else none
  | _, _ => none

/-- The unnamed function that the phrase exports as the default of its file. -/
def defaultFunction? (p : Phrase) : Option Phrase :=
  if p.kind = "export_statement" && p.hasChild "default" then
    (p.child? .value).filter fun value =>
      ["function_expression", "function", "generator_function"].contains value.kind
  else none

end Phrase

/-- A function that calls are counted for: its name, unless it has none, and its phrase. -/
structure NamedFunction where
  name : Option String
  phrase : Phrase

namespace NamedFunction

/-- What a function without a name is called. -/
def anonymous : String := "<anonymous>"

/-- What the function is called as the caller of others. -/
def caller (f : NamedFunction) : String := f.name.getD anonymous

end NamedFunction

namespace Source

/-- The function that a phrase brings in. -/
def function? (s : Source) (p : Phrase) : Option NamedFunction :=
  if p.isDeclaration then some ⟨(p.child? .name).map s.textOf, p⟩
  else if p.kind = "variable_declarator" then
    p.bound?.map fun (name, value) => ⟨some (s.textOf name), value⟩
  else p.defaultFunction?.map fun value => ⟨none, value⟩

/-- All functions that calls are counted for, in reading order. -/
def namedFunctions (s : Source) : List NamedFunction := s.root.walk.filterMap s.function?

end Source

/-! ## Names of functions and imports -/

/-- Where a called name comes from. -/
inductive Resolution where
  | ownFunction
  | imported (source : String)
  | unknown
  deriving DecidableEq

/-- The names of the functions of a file, and the imported names with their modules. -/
structure Symbols where
  functions : List String
  imports : Register String String

namespace Source

/-- The function name that a phrase declares or binds. -/
def functionName? (s : Source) (p : Phrase) : Option String :=
  if p.isDeclaration then (p.child? .name).map s.textOf
  else if p.kind = "variable_declarator" then p.bound?.map fun (name, _) => s.textOf name
  else none

/-- The name that an import specifier binds: the new one if it gives one. -/
def specifierName? (s : Source) (specifier : Phrase) : Option String :=
  let name := (specifier.child? .alias).or (specifier.child? .name)
  (name.filter fun n => n.kind = "identifier").map s.textOf

/-- The names that a part of an import clause binds. -/
def clauseNames (s : Source) (part : Phrase) : List String :=
  if part.kind = "identifier" then [s.textOf part]
  else if part.kind = "named_imports" then
    (part.namedChildren.filter fun p => p.kind = "import_specifier").filterMap s.specifierName?
  else []

/-- The names that an import statement binds, each with the module it comes from. -/
def bindings (s : Source) (statement : Phrase) : List (String × String) :=
  match statement.child? .source with
  | none => []
  | some source =>
    let clauses := statement.children.filter fun p : Phrase => p.kind = "import_clause"
    (clauses.flatMap fun clause => clause.children.flatMap s.clauseNames).map
      fun name => (name, s.unquoted source)

/-- The bindings of a phrase if it is an import statement. -/
def bindingsAt (s : Source) (p : Phrase) : List (String × String) :=
  if p.kind = "import_statement" then s.bindings p else []

/-- The names that a file knows. Of two imports of one name the later one counts. -/
def symbols (s : Source) : Symbols where
  functions := s.root.walk.filterMap s.functionName?
  imports := .ofList (s.root.walk.flatMap s.bindingsAt)

end Source

/-- Where a name comes from. A function of the file hides an imported name. -/
def Symbols.resolve (symbols : Symbols) (name : String) : Resolution :=
  if symbols.functions.contains name then .ownFunction
  else
    match symbols.imports.get? name with
    | some source => .imported source
    | none => .unknown

end CodeAtlas
