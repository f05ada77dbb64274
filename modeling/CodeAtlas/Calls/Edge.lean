-- Call edges: which function of a file calls what, and where first. Calls of what the platform
-- gives to every program are not followed.
import CodeAtlas.Calls.Function
import CodeAtlas.Text.Segments

/-! ## Names of the platform -/

namespace CodeAtlas.Platform

/-- The names of the platform. -/
def names : List String :=
  ["console", "Math", "JSON", "Date", "Promise", "setTimeout", "setInterval", "clearTimeout",
    "clearInterval", "window", "document", "globalThis", "Array", "Object", "Number", "String",
    "Boolean", "Symbol", "BigInt", "isNaN", "eval", "alert", "prompt", "fetch", "XMLHttpRequest",
    "requestAnimationFrame", "cancelAnimationFrame", "localStorage", "sessionStorage",
    "indexedDB", "Headers", "Request", "Response", "WebSocket", "Worker", "MessageChannel",
    "MessagePort", "MessageEvent", "Notification", "dispatch", "useContext", "createContext",
    "createRoot", "document.getElementById", "useReducer", "parseFloat", "num.toString",
    "num.toExponential", "isFinite", "value.includes"]

/-- What stands before the first dot, if there is a dot. -/
def beforeDot? (name : String) : Option String :=
  match Segments.split '.' name.toList with
  | first :: _ :: _ => some (String.ofList first)
  | _ => none

/-- The name belongs to the platform, or is that of a member of something that does. -/
def isBuiltin (name : String) : Bool :=
  names.contains name || (beforeDot? name).any names.contains

end CodeAtlas.Platform

/-! ## Edges -/

namespace CodeAtlas

/-- A call inside a named function. -/
structure CallEdge where
  caller : String
  callee : String
  location : Location
  resolution : Resolution
  deriving DecidableEq

def Phrase.isCall (p : Phrase) : Bool := p.kind = "call_expression"

/-- The elements whose key neither an earlier element has nor `seen` holds. -/
def firstsFrom {α κ : Type} [BEq κ] (key : α → κ) (seen : List κ) : List α → List α
  | [] => []
  | a :: as =>
    if seen.contains (key a) then firstsFrom key seen as
    else a :: firstsFrom key (key a :: seen) as

/-- The first element for every key. -/
def firsts {α κ : Type} [BEq κ] (key : α → κ) (as : List α) : List α := firstsFrom key [] as

/-- A place where a function calls something by name. -/
structure CallSite where
  caller : String
  callee : String
  phrase : Phrase

namespace Source

/-- The name that a member access calls: an identifier, a dot and a property. -/
def memberName? (s : Source) (callee : Phrase) : Option String :=
  if callee.hasChild "optional_chain" then none
  else
    match callee.child? .object, callee.child? .property with
    | some object, some property =>
      if object.kind = "identifier" && property.kind = "property_identifier" then
        some (s.textOf object ++ "." ++ s.textOf property)
      else none
    | _, _ => none

/-- The name that a call calls. Optional calls and tagged templates have none, nor has a callee
that is neither an identifier nor a member of one. -/
def calleeName? (s : Source) (call : Phrase) : Option String :=
  if call.hasChild "optional_chain" then none
  else if (call.child? .arguments).any fun a => a.kind = "template_string" then none
  else
    match call.child? .function with
    | none => none
    | some callee =>
      if callee.kind = "identifier" then some (s.textOf callee)
      else if callee.kind = "member_expression" then s.memberName? callee
      else none

/-- The name that a call calls, if it is one to be followed. -/
def target? (s : Source) (call : Phrase) : Option String :=
  (s.calleeName? call).filter fun name => name ≠ "" && !Platform.isBuiltin name

/-- The calls in a phrase, in reading order. -/
def calls (p : Phrase) : List Phrase := p.walk.filter Phrase.isCall

def callSitesIn (s : Source) (f : NamedFunction) : List CallSite :=
  (calls f.phrase).filterMap fun call =>
    (s.target? call).map fun callee => ⟨f.caller, callee, call⟩

/-- The call sites of a file, function by function. A call in a nested function counts for every
named function around it. -/
def callSites (s : Source) : List CallSite := s.namedFunctions.flatMap s.callSitesIn

/-- The edge that a call site stands for, in a file that knows these names. -/
def edgeOf (s : Source) (symbols : Symbols) (site : CallSite) : CallEdge where
  caller := site.caller
  callee := site.callee
  location := s.locationOf site.phrase
  resolution := symbols.resolve site.callee

/-- The call edges of a file: one for every pair of a caller and a callee, for the first place
where they meet. -/
def callEdges (s : Source) : List CallEdge :=
  (firsts (fun site : CallSite => (site.caller, site.callee)) s.callSites).map
    (s.edgeOf s.symbols)

end Source

end CodeAtlas
