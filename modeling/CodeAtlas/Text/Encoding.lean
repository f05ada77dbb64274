-- Encodings: how the first bytes of a document tell which one it is written in, and
-- the text that the bytes stand for. A half of a pair that stands alone makes no
-- character, and a mark takes its place.
import CodeAtlas.Text.Utf8

namespace CodeAtlas

/-- How characters are written: as UTF-8, or as wide units whose high byte may come first. -/
inductive Encoding where
  | utf8
  | utf16 (highFirst : Bool)
  | utf32 (highFirst : Bool)
  deriving DecidableEq

namespace Encoding

/-! ## Which encoding -/

/-- How an encoding is called. -/
def name : Encoding → String
  | utf8 => "utf-8"
  | utf16 true => "utf-16-be"
  | utf16 false => "utf-16-le"
  | utf32 true => "utf-32-be"
  | utf32 false => "utf-32-le"

/-- The marks that may stand before a document to tell its encoding. A longer one comes before its
own beginning. -/
def marks : List (List UInt8 × Encoding) :=
  [([0x00, 0x00, 0xFE, 0xFF], utf32 true), ([0xFF, 0xFE, 0x00, 0x00], utf32 false),
    ([0xFE, 0xFF], utf16 true), ([0xFF, 0xFE], utf16 false), ([0xEF, 0xBB, 0xBF], utf8)]

/-- The encoding of a document without a mark. Its first character is taken for an ASCII one, so
that zeros show how wide a unit is. -/
def guess : List UInt8 → Encoding
  | [a, b] => if a = 0 then utf16 true else if b = 0 then utf16 false else utf8
  | a :: b :: c :: d :: _ =>
    if a = 0 then if b = 0 then utf32 true else utf16 true
    else if b = 0 then if c = 0 && d = 0 then utf32 false else utf16 false
    else utf8
  | _ => utf8

/-- The encoding of a document, and the mark that tells it. -/
def detect (bytes : List UInt8) : Encoding × List UInt8 :=
  match marks.find? fun (mark, _) => mark.isPrefixOf bytes with
  | some (mark, encoding) => (encoding, mark)
  | none => (guess bytes, [])

/-! ## Faults -/

/-- Why bytes stand for no text: they are no UTF-8, or a wide unit is cut off or too large. -/
inductive Fault where
  | narrow (f : Utf8.Fault)
  | cutOff (encoding : Encoding) (position : Nat) (bytes : List UInt8)
  | tooLarge (encoding : Encoding) (position : Nat) (bytes : List UInt8)
  deriving DecidableEq

def Fault.message : Fault → String
  | .narrow f => f.message
  | .cutOff encoding position bytes =>
    "'" ++ encoding.name ++ "' codec can't decode " ++ Utf8.placeText position bytes
      ++ ": truncated data"
  | .tooLarge encoding position bytes =>
    "'" ++ encoding.name ++ "' codec can't decode " ++ Utf8.placeText position bytes
      ++ ": code point not in range(0x110000)"

/-! ## Reading -/

/-- Puts the mark in the place of halves that are written as if they were characters. -/
def markHalves : List UInt8 → List UInt8
  | a :: b :: c :: rest =>
    if a = 0xED && Utf8.Range.holds ⟨0xA0, 0xBF⟩ b && Utf8.anyTail.holds c then
      Utf8.encodeChar Utf8.mark ++ markHalves rest
    else a :: markHalves (b :: c :: rest)
  | rest => rest

/-- The number that the bytes of a unit stand for. -/
def unitValue (highFirst : Bool) (bytes : List UInt8) : Nat :=
  (if highFirst then bytes else bytes.reverse).foldl (fun n b => n * 256 + b.toNat) 0

/-- The character with this number, or the mark if there is none. -/
def charOf (n : Nat) : Char := if n.isValidChar then Char.ofNat n else Utf8.mark

/-- The characters of UTF-16 units. -/
def charsOfUnits : List Nat → List Char
  | a :: b :: rest =>
    if 0xD800 ≤ a && a < 0xDC00 && 0xDC00 ≤ b && b < 0xE000 then
      Char.ofNat (0x10000 + (a - 0xD800) * 0x400 + (b - 0xDC00)) :: charsOfUnits rest
    else charOf a :: charsOfUnits (b :: rest)
  | [a] => [charOf a]
  | [] => []

/-- The units of two bytes, with `position` bytes before. -/
def units16 (highFirst : Bool) (position : Nat) : List UInt8 → Except Fault (List Nat)
  | a :: b :: rest =>
    (units16 highFirst (position + 2) rest).map (unitValue highFirst [a, b] :: ·)
  | [a] => .error (.cutOff (utf16 highFirst) position [a])
  | [] => .ok []

/-- The characters of units of four bytes, with `position` bytes before. -/
def chars32 (highFirst : Bool) (position : Nat) : List UInt8 → Except Fault (List Char)
  | a :: b :: c :: d :: rest =>
    let n := unitValue highFirst [a, b, c, d]
    if 0x110000 ≤ n then .error (.tooLarge (utf32 highFirst) position [a, b, c, d])
    else (chars32 highFirst (position + 4) rest).map (charOf n :: ·)
  | [] => .ok []
  | rest => .error (.cutOff (utf32 highFirst) position rest)

/-- The text of a document in the encoding that its first bytes tell. -/
def decode (bytes : List UInt8) : Except Fault (List Char) :=
  let (encoding, mark) := detect bytes
  let rest := bytes.drop mark.length
  match encoding with
  | utf8 => (Utf8.decode (markHalves rest)).mapError .narrow
  | utf16 highFirst => (units16 highFirst mark.length rest).map charsOfUnits
  | utf32 highFirst => chars32 highFirst mark.length rest

end Encoding

end CodeAtlas
