-- Source files that have been read: phrases, which are the pieces of a program as a grammar reads
-- them, and the bytes that they cover.
import CodeAtlas.Path
import CodeAtlas.Text.Segments
import CodeAtlas.Text.Utf8
import CodeAtlas.Tree

namespace CodeAtlas

/-! ## Lines and columns -/

/-- The byte that ends a line. -/
def lineFeed : UInt8 := 10

/-- Where a byte stands: how many lines end before it, and how many bytes come before it on its own
line. -/
structure Point where
  row : Nat
  column : Nat
  deriving DecidableEq

namespace Point

/-- Where the next byte stands. -/
def next (p : Point) (byte : UInt8) : Point :=
  if byte = lineFeed then ⟨p.row + 1, 0⟩ else ⟨p.row, p.column + 1⟩

/-- Where the byte at the offset stands. -/
def ofOffset (bytes : List UInt8) (offset : Nat) : Point :=
  (bytes.take offset).foldl next ⟨0, 0⟩

end Point

/-- A line, counted from one, and a column, counted from zero in UTF-16 units. -/
structure Location where
  line : Nat
  column : Nat
  deriving DecidableEq

/-! ## Phrases -/

/-- The part that a phrase plays in the phrase above it. -/
inductive Role where
  | name
  | value
  | source
  | alias
  | arguments
  | function
  | object
  | property
  deriving DecidableEq

/-- How a role is called. -/
def Role.text : Role → String
  | .name => "name"
  | .value => "value"
  | .source => "source"
  | .alias => "alias"
  | .arguments => "arguments"
  | .function => "function"
  | .object => "object"
  | .property => "property"

def Role.all : List Role :=
  [.name, .value, .source, .alias, .arguments, .function, .object, .property]

/-- The role that is called so. -/
def Role.ofText? (s : String) : Option Role := Role.all.find? (·.text = s)

/-- What a grammar says of one phrase: its kind, its first byte and where that stands, the byte
after its last, whether it is named or only a word or sign of the language, whether it was missing
from the text, whether it is text that fits nowhere, and whether there is such a phrase in it. -/
structure Token where
  kind : String
  start : Nat
  point : Point
  stop : Nat
  named : Bool
  missing : Bool
  error : Bool
  faulty : Bool
  role : Option Role
  deriving DecidableEq

abbrev Phrase := Tree Token

namespace Phrase

def kind (p : Phrase) : String := p.label.kind

def named (p : Phrase) : Bool := p.label.named

def isComment (p : Phrase) : Bool := p.kind = "comment"

/-- The phrase that plays the role in this one. -/
def child? (p : Phrase) (role : Role) : Option Phrase :=
  p.children.find? fun c => c.label.role = some role

/-- The named phrases directly in this one. -/
def namedChildren (p : Phrase) : List Phrase := p.children.filter named

/-- A phrase of the kind stands directly in this one. -/
def hasChild (p : Phrase) (kind : String) : Bool := p.children.any fun c : Phrase => c.kind = kind

/-- The phrase is more than a word, a sign or a comment. -/
def isContent (p : Phrase) : Bool := p.named && !p.isComment

/-- The phrases directly in this one that are more than words, signs and comments. -/
def contents (p : Phrase) : List Phrase := p.children.filter isContent

end Phrase

/-! ## Sources -/

/-- A source file: its dialect, its bytes, and the phrase that covers them. -/
structure Source where
  dialect : Dialect
  bytes : List UInt8
  root : Phrase

namespace Source

def textOf (s : Source) (p : Phrase) : String :=
  String.ofList
    (Utf8.decodeLossy ((s.bytes.drop p.label.start).take (p.label.stop - p.label.start)))

/-- Where a phrase starts. Its column counts the UTF-16 units of the bytes before it on its line. -/
def locationOf (s : Source) (p : Phrase) : Location :=
  let lineStart := p.label.start - p.label.point.column
  let before := (s.bytes.drop lineStart).take (p.label.start - lineStart)
  { line := p.label.point.row + 1
    column := Lines.width (Utf8.decodeLossy before) }

/-- The top-level statements, without comments. -/
def body (s : Source) : List Phrase := s.root.contents

/-- The text between the first and the last character that a phrase covers. Of a quoted text,
these are its quotes. -/
def unquoted (s : Source) (p : Phrase) : String :=
  String.ofList ((s.textOf p).toList.drop 1).dropLast

end Source

end CodeAtlas
