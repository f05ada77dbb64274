-- Reading texts. The grammars themselves come from outside: a grammar gives the phrases of any text
-- in any dialect, and marks what it could not place.
import CodeAtlas.Source.Basic

namespace CodeAtlas

/-! ## Faults: where reading a text fails, and how that is said -/

/-- What is wrong at a place: a phrase of this kind is missing, or what stands there does not
belong. -/
inductive Detail where
  | missing (kind : String)
  | unexpected
  deriving DecidableEq

/-- How a detail is said. -/
def Detail.message : Detail → String
  | .missing kind => "missing " ++ kind
  | .unexpected => "unexpected token"

/-- A place where a text cannot be read, and what is wrong there. -/
structure Fault where
  location : Location
  detail : Detail
  deriving DecidableEq

/-- How a fault is said of a file. -/
def Fault.message (path : String) (f : Fault) : String :=
  path ++ ":" ++ toString f.location.line ++ ":" ++ toString f.location.column ++ ": "
    ++ f.detail.message

namespace Phrase

/-- The search for a fault goes into a phrase that holds a fault or is missing. -/
def mayHoldFault (t : Token) : Bool := t.faulty || t.missing

/-- The phrase to point at in a text that cannot be read. A missing phrase marks where it should
have stood. Without one, the last word of the first error is the one that did not fit. -/
def culprit (root : Phrase) : Phrase :=
  match root.search (·.missing) mayHoldFault with
  | some p => p
  | none =>
    match root.search (·.error) mayHoldFault with
    | some p => p.lastLeaf
    | none => root

end Phrase

/-- The fault of a source whose text cannot be read. -/
def Source.fault (s : Source) : Fault :=
  let p := s.root.culprit
  { location := s.locationOf p
    detail := if p.label.missing then .missing p.kind else .unexpected }

/-! ## Grammars -/

/-- A reader of texts. -/
structure Grammar where
  phrase : Dialect → String → Phrase

/-- The phrases that a grammar found in one text. -/
structure Reading where
  dialect : Dialect
  text : String
  rows : List (Tree.Row Token)

/-- The whole of a text that fits nowhere. -/
def Phrase.unread (text : String) : Phrase :=
  .node ⟨"ERROR", 0, ⟨0, 0⟩, (Utf8.encode text.toList).length, true, false, true, true, none⟩ []

/-- The grammar that knows the texts it is given. It cannot place any other text. -/
def Grammar.ofReadings (readings : List Reading) : Grammar where
  phrase dialect text :=
    let reading := readings.find? fun r => r.dialect = dialect && r.text = text
    (reading.bind fun r => Tree.ofRows? r.rows).getD (Phrase.unread text)

/-- Why a text cannot be read as source. -/
inductive ReadError where
  | unknownDialect (name : String)
  | notSource (path : String)
  | fault (path : String) (f : Fault)
  deriving DecidableEq

/-- How it is said that a text cannot be read. -/
def ReadError.message : ReadError → String
  | .unknownDialect name => "Unsupported dialect: " ++ name
  | .notSource path => "Not a JavaScript/TypeScript file: " ++ path
  | .fault path f => f.message path

namespace Source

/-- Reads a text in a dialect. -/
def read (g : Grammar) (dialect : Dialect) (text : String) : Except Fault Source :=
  let s : Source := ⟨dialect, Utf8.encode text.toList, g.phrase dialect text⟩
  if s.root.label.faulty then .error s.fault else .ok s

/-- Reads a text in the dialect that is called so. The path only serves to say where a fault is. -/
def readNamed (g : Grammar) (dialect path text : String) : Except ReadError Source :=
  match Dialect.ofName? dialect with
  | none => .error (.unknownDialect dialect)
  | some d => (read g d text).mapError (.fault path)

/-- Reads a text in the dialect of its path. -/
def readAt (g : Grammar) (path text : String) : Except ReadError Source :=
  match Dialect.ofPath? path with
  | none => .error (.notSource path)
  | some d => (read g d text).mapError (.fault path)

end Source

end CodeAtlas
