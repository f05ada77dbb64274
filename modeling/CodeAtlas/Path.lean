-- Paths as texts with slashes: their components, the last of them, its suffix, and the dialect of
-- source text that the suffix asks for.
import CodeAtlas.Text.Segments

namespace CodeAtlas.Path

/-- The components of a path. Empty ones and single dots say nothing and are dropped; a double
dot stays, since only the disk knows where it leads. -/
def components (path : String) : List String :=
  ((Segments.split '/' path.toList).filter fun s => s ≠ [] && s ≠ ['.']).map String.ofList

/-- Components written as a path. No component at all is written as a single dot. -/
def render (cs : List String) : String :=
  if cs.isEmpty then "." else String.ofList (Segments.join '/' (cs.map String.toList))

/-- The last component, or nothing. -/
def name (path : String) : String := (components path).getLastD ""

/-- What stands before the last dot, and what starts with it. -/
def splitLastDot : List Char → Option (List Char × List Char)
  | [] => none
  | c :: cs =>
    match splitLastDot cs with
    | some (stem, rest) => some (c :: stem, rest)
    | none => if c = '.' then some ([], '.' :: cs) else none

/-- The suffix of a name: from its last dot on, if that dot is neither the first nor the last
character. -/
def suffixOf (name : List Char) : List Char :=
  match splitLastDot name with
  | some (stem, rest) => if stem.isEmpty || rest.length < 2 then [] else rest
  | none => []

/-- The suffix of the last component. -/
def suffix (path : String) : String := String.ofList (suffixOf (name path).toList)

end CodeAtlas.Path

/-! ## Dialects -/

namespace CodeAtlas

/-- A dialect that source text is written in. -/
inductive Dialect where
  | typescript
  | tsx
  | javascript
  deriving DecidableEq

namespace Dialect

/-- How a dialect is called. -/
def name : Dialect → String
  | typescript => "typescript"
  | tsx => "tsx"
  | javascript => "javascript"

/-- The dialect that is called so. -/
def ofName? (s : String) : Option Dialect :=
  [typescript, tsx, javascript].find? (·.name = s)

/-- The suffixes of source files. -/
def suffixes : List (String × Dialect) :=
  [(".ts", typescript), (".tsx", tsx), (".js", javascript), (".jsx", javascript)]

/-- The dialect of a file by the suffix of its name. Large and small letters are alike; the
suffixes are ASCII, and no other letter has one of theirs as its small form. -/
def ofPath? (path : String) : Option Dialect :=
  suffixes.lookup (String.ofList ((Path.suffix path).toList.map Char.toLower))

end Dialect

/-- The file holds source text that can be read. -/
def isSourceFile (path : String) : Bool := (Dialect.ofPath? path).isSome

end CodeAtlas
