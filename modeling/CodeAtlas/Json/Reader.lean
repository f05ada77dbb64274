-- Reading JSON: the value of a document, or what is wrong with it and where.
import CodeAtlas.Json.Value
import CodeAtlas.Register
import CodeAtlas.Text.Characters
import CodeAtlas.Text.Encoding

namespace CodeAtlas.Json

/-! ## Faults -/

/-- Why a text is no JSON, or not one that can be held. -/
inductive Flaw where
  | noValue
  | moreData
  | noKey
  | noColon
  | noComma
  | openText
  | control
  | badEscape
  | badUnit
  | tooLong (digits : Nat)
  | tooDeep
  deriving DecidableEq

/-- A flaw, and how many characters are left where it was found. -/
structure Halt where
  flaw : Flaw
  left : Nat
  deriving DecidableEq

/-- Something at the front of a text with the rest of the text, or a flaw. -/
abbrev Parsed (α : Type) := Except Halt (α × List Char)

/-- There is a flaw where these characters are left. -/
def haltAt {α : Type} (flaw : Flaw) (left : List Char) : Except Halt α :=
  .error ⟨flaw, left.length⟩

/-! ## Texts -/

/-- Drops the blanks that may stand between two parts. -/
def skip (cs : List Char) : List Char := cs.dropWhile [' ', '\t', '\n', '\r'].contains

/-- The rest after a word, if the text starts with it. -/
def after? (word : String) (cs : List Char) : Option (List Char) := word.toList.isPrefixOf? cs

/-- The value of a hexadecimal digit. -/
def hexDigit? (c : Char) : Option Nat :=
  if c.isDigit then some (c.toNat - '0'.toNat)
  else if 'a' ≤ c && c ≤ 'f' then some (c.toNat - 'a'.toNat + 10)
  else if 'A' ≤ c && c ≤ 'F' then some (c.toNat - 'A'.toNat + 10)
  else none

/-- The number of four hexadecimal digits. -/
def unit? (a b c d : Char) : Option Nat := do
  return (((← hexDigit? a) * 16 + (← hexDigit? b)) * 16 + (← hexDigit? c)) * 16 + (← hexDigit? d)

/-- What a single letter after a backslash stands for. -/
def escapes : List (Char × Char) :=
  [('"', '"'), ('\\', '\\'), ('/', '/'), ('b', '\x08'), ('f', '\x0c'), ('n', '\n'), ('r', '\r'),
    ('t', '\t')]

/-- The unit is the first half of a pair. -/
def isHighHalf (u : Nat) : Bool := 0xD800 ≤ u && u < 0xDC00

/-- The unit is the second half of a pair. -/
def isLowHalf (u : Nat) : Bool := 0xDC00 ≤ u && u < 0xE000

/-- The character of a pair of halves. -/
def ofHalves (high low : Nat) : Char :=
  Char.ofNat (0x10000 + (high - 0xD800) * 0x400 + (low - 0xDC00))

/-- The mark that takes the place of a half that stands alone. -/
def mark : Char := '\ufffd'

/-- Characters after a half that stands alone, if there is one. -/
def alone (pending : Option Nat) (cs : List Char) : List Char :=
  if pending.isSome then mark :: cs else cs

/-- The characters of a text up to its closing quote, and the rest, when the text starts at
`opening`. A first half of a pair waits in `pending` for the second one. A half that stands alone
makes no character, and a mark takes its place. -/
def textFrom (opening : List Char) (pending : Option Nat) : List Char → Parsed (List Char)
  | [] => haltAt .openText opening
  | '"' :: cs => .ok (alone pending [], cs)
  | ['\\'] => haltAt .openText opening
  | '\\' :: 'u' :: a :: b :: c :: d :: e :: cs =>
    match unit? a b c d, pending with
    | none, _ => haltAt .badUnit ('u' :: a :: b :: c :: d :: e :: cs)
    | some u, some high =>
      if isLowHalf u then
        (textFrom opening none (e :: cs)).map fun (s, rest) => (ofHalves high u :: s, rest)
      else if isHighHalf u then
        (textFrom opening (some u) (e :: cs)).map fun (s, rest) => (mark :: s, rest)
      else
        (textFrom opening none (e :: cs)).map fun (s, rest) => (mark :: Char.ofNat u :: s, rest)
    | some u, none =>
      if isHighHalf u then textFrom opening (some u) (e :: cs)
      else if isLowHalf u then
        (textFrom opening none (e :: cs)).map fun (s, rest) => (mark :: s, rest)
      else (textFrom opening none (e :: cs)).map fun (s, rest) => (Char.ofNat u :: s, rest)
  | '\\' :: 'u' :: cs => haltAt .badUnit ('u' :: cs)
  | '\\' :: e :: cs =>
    match escapes.lookup e with
    | some c => (textFrom opening none cs).map fun (s, rest) => (alone pending (c :: s), rest)
    | none => haltAt .badEscape ('\\' :: e :: cs)
  | c :: cs =>
    if c.toNat < 0x20 then haltAt .control (c :: cs)
    else (textFrom opening none cs).map fun (s, rest) => (alone pending (c :: s), rest)

/-! ## Numbers and words -/

/-- The number that digits stand for. -/
def digitsValue (ds : List Char) : Nat :=
  ds.foldl (fun n d => n * 10 + (d.toNat - '0'.toNat)) 0

/-- Leading digits, at least one. -/
def digits? (cs : List Char) : Option (List Char × List Char) :=
  let ds := cs.takeWhile Char.isDigit
  if ds.isEmpty then none else some (ds, cs.dropWhile Char.isDigit)

/-- A point with digits, if there is one. -/
def fraction (cs : List Char) : List Char × List Char :=
  match cs with
  | '.' :: rest =>
    match digits? rest with
    | some (ds, rest) => ('.' :: ds, rest)
    | none => ([], cs)
  | _ => ([], cs)

/-- A power of ten, if there is one. -/
def exponent (cs : List Char) : List Char × List Char :=
  match cs with
  | e :: rest =>
    if e = 'e' || e = 'E' then
      let sign := rest.take 1 |>.filter ['+', '-'].contains
      match digits? (rest.drop sign.length) with
      | some (ds, rest) => (e :: sign ++ ds, rest)
      | none => ([], cs)
    else ([], cs)
  | [] => ([], cs)

/-- A number at the front. A zero in front of further digits is a number by itself. Whole numbers
may not have too many digits. -/
def number (cs : List Char) : Parsed Json :=
  let sign := cs.take 1 |>.filter (· = '-')
  let whole : Option (List Char × List Char) :=
    match cs.drop sign.length with
    | '0' :: rest => some (['0'], rest)
    | other => digits? other
  match whole with
  | none => haltAt .noValue cs
  | some (ds, rest) =>
    let (point, rest) := fraction rest
    let (power, rest) := exponent rest
    let n : Int := digitsValue ds
    if !point.isEmpty || !power.isEmpty then
      .ok (decimal (String.ofList (sign ++ ds ++ point ++ power)), rest)
    else if Decimal.maxDigits < ds.length then haltAt (.tooLong ds.length) cs
    else .ok (int (if sign.isEmpty then n else -n), rest)

/-- The words with a fixed meaning. -/
def words : List (String × Json) :=
  [("null", null), ("true", bool true), ("false", bool false), ("NaN", decimal "NaN"),
    ("Infinity", decimal "Infinity"), ("-Infinity", decimal "-Infinity")]

/-- A word with a fixed meaning at the front. -/
def word? (cs : List Char) : Option (Json × List Char) :=
  words.findSome? fun (word, j) => (after? word cs).map fun rest => (j, rest)

/-! ## Values -/

mutual

/-- A value at the front, inside of `depth` lists and objects. No more than `nesting` of them can be
inside of each other. -/
def value (nesting fuel depth : Nat) (cs : List Char) : Parsed Json :=
  match fuel with
  | 0 => haltAt .noValue cs
  | fuel + 1 =>
    match cs with
    | '"' :: rest =>
      (textFrom cs none rest).map fun (s, rest) => (text (String.ofList s), rest)
    | '[' :: rest =>
      if nesting ≤ depth then haltAt .tooDeep cs
      else
        match skip rest with
        | ']' :: rest => .ok (list [], rest)
        | rest => (items nesting fuel (depth + 1) rest).map fun (js, rest) => (list js, rest)
    | '\x7b' :: rest =>
      if nesting ≤ depth then haltAt .tooDeep cs
      else
        match skip rest with
        | '\x7d' :: rest => .ok (object [], rest)
        | rest =>
          (members nesting fuel (depth + 1) rest).map
            fun (ms, rest) => (object (Register.ofList ms).entries, rest)
    | _ =>
      match word? cs with
      | some found => .ok found
      | none => number cs

/-- The items of a list up to its closing bracket. -/
def items (nesting fuel depth : Nat) (cs : List Char) : Parsed (List Json) :=
  match fuel with
  | 0 => haltAt .noValue cs
  | fuel + 1 =>
    match value nesting fuel depth cs with
    | .error h => .error h
    | .ok (j, rest) =>
      match skip rest with
      | ',' :: rest => (items nesting fuel depth (skip rest)).map fun (js, rest) => (j :: js, rest)
      | ']' :: rest => .ok ([j], rest)
      | rest => haltAt .noComma rest

/-- The members of an object up to its closing brace. -/
def members (nesting fuel depth : Nat) (cs : List Char) : Parsed (List (String × Json)) :=
  match fuel with
  | 0 => haltAt .noKey cs
  | fuel + 1 =>
    match cs with
    | '"' :: rest =>
      match textFrom cs none rest with
      | .error h => .error h
      | .ok (key, rest) =>
        match skip rest with
        | ':' :: rest =>
          match value nesting fuel depth (skip rest) with
          | .error h => .error h
          | .ok (j, rest) =>
            let member := (String.ofList key, j)
            match skip rest with
            | ',' :: rest =>
              (members nesting fuel depth (skip rest)).map fun (ms, rest) => (member :: ms, rest)
            | '\x7d' :: rest => .ok ([member], rest)
            | rest => haltAt .noComma rest
        | rest => haltAt .noColon rest
    | _ => haltAt .noKey cs

end

/-- Reads a document that is one value. Every step takes at least one character, so the length of
the document bounds their number. -/
def document (nesting : Nat) (cs : List Char) : Except Halt Json :=
  match value nesting (2 * cs.length + 2) 0 (skip cs) with
  | .error h => .error h
  | .ok (j, rest) =>
    match skip rest with
    | [] => .ok j
    | rest => haltAt .moreData rest

/-! ## Places -/

/-- What is wrong with a document, with the line and the column, from one, and how many
characters stand before. -/
structure Fault where
  flaw : Flaw
  line : Nat
  column : Nat
  position : Nat
  deriving DecidableEq

/-- The place where a document cannot be read further. -/
def Halt.fault (h : Halt) (cs : List Char) : Fault :=
  let before := cs.take (cs.length - h.left)
  ⟨h.flaw, before.count '\n' + 1, (before.reverse.takeWhile (· ≠ '\n')).length + 1,
    before.length⟩

def Flaw.message : Flaw → String
  | .noValue => "Expecting value"
  | .moreData => "Extra data"
  | .noKey => "Expecting property name enclosed in double quotes"
  | .noColon => "Expecting ':' delimiter"
  | .noComma => "Expecting ',' delimiter"
  | .openText => "Unterminated string starting at"
  | .control => "Invalid control character at"
  | .badEscape => "Invalid \\escape"
  | .badUnit => "Invalid \\uXXXX escape"
  | .tooLong digits =>
    "Exceeds the limit (" ++ toString Decimal.maxDigits
      ++ " digits) for integer string conversion: value has " ++ toString digits
      ++ " digits; use sys.set_int_max_str_digits() to increase the limit"
  | .tooDeep => "maximum recursion depth exceeded"

/-- The flaw is one of the text, and not of what can be held. -/
def Flaw.isMalformed : Flaw → Bool
  | .tooLong _ | .tooDeep => false
  | _ => true

/-- What is said of a document that cannot be read. -/
def Fault.message (f : Fault) : String :=
  if f.flaw.isMalformed then
    f.flaw.message ++ ": line " ++ toString f.line ++ " column " ++ toString f.column ++ " (char "
      ++ toString f.position ++ ")"
  else f.flaw.message

/-- The value of a document, if it can be read. Nothing in it is nested deeper than it is long. -/
def parse? (document : String) : Option Json :=
  (Json.document document.length document.toList).toOption

/-! ## Documents that come as bytes -/

/-- Why bytes are no document: they are no text, or the text is no JSON. -/
inductive DocumentFault where
  | encoding (f : Encoding.Fault)
  | content (f : Fault)
  deriving DecidableEq

/-- What is said of bytes that are no document. -/
def DocumentFault.message : DocumentFault → String
  | .encoding f => f.message
  | .content f => f.message

/-- The value of a document. -/
def ofBytes (nesting : Nat) (bytes : List UInt8) : Except DocumentFault Json :=
  match Encoding.decode bytes with
  | .error f => .error (.encoding f)
  | .ok cs => (document nesting cs).mapError fun h => .content (h.fault cs)

end CodeAtlas.Json
