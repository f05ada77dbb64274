-- How messages write what they are about: texts in quotes, texts that had to be ASCII, and numbers
-- with their digits in groups.
import CodeAtlas.Text.Characters

/-! ## Texts in quotes: what cannot be shown is written by its number -/

namespace CodeAtlas.Quoted

/-- A number in hexadecimal digits, filled with zeros to a width. -/
def hex (width n : Nat) : List Char :=
  let digits := Nat.toDigits 16 n
  List.replicate (width - digits.length) '0' ++ digits

/-- The quote around a text: a double one only if the text holds single ones and no double one. -/
def quoteOf (cs : List Char) : Char :=
  if cs.contains '\'' && !cs.contains '"' then '"' else '\''

/-- A character written by its number. -/
def numbered (c : Char) : List Char :=
  let v := c.toNat
  if v < 0x100 then '\\' :: 'x' :: hex 2 v
  else if v < 0x10000 then '\\' :: 'u' :: hex 4 v
  else '\\' :: 'U' :: hex 8 v

/-- How a character stands between quotes. -/
def escape (quote c : Char) : List Char :=
  if c = quote || c = '\\' then ['\\', c]
  else if c = '\n' then ['\\', 'n']
  else if c = '\r' then ['\\', 'r']
  else if c = '\t' then ['\\', 't']
  else if Printable.isPrintable c then [c]
  else numbered c

def quote (s : String) : String :=
  let q := quoteOf s.toList
  String.ofList (q :: s.toList.flatMap (escape q) ++ [q])

end CodeAtlas.Quoted

/-! ## Texts that have to be ASCII -/

namespace CodeAtlas.Ascii

/-- The character is an ASCII one. -/
def isAscii (c : Char) : Bool := c.toNat < 0x80

/-- Where a text is not ASCII: the places of the first characters that are not, and the first of
them. -/
structure Fault where
  first : Nat
  last : Nat
  char : Char
  deriving DecidableEq

/-- What is said of a text that is not ASCII. -/
def Fault.message (f : Fault) : String :=
  let what :=
    if f.first = f.last then
      "character '" ++ String.ofList (Quoted.numbered f.char) ++ "' in position " ++
        toString f.first
    else "characters in position " ++ toString f.first ++ "-" ++ toString f.last
  "'ascii' codec can't encode " ++ what ++ ": ordinal not in range(128)"

/-- Where a text is not ASCII. -/
def fault? (cs : List Char) : Option Fault :=
  match cs.dropWhile isAscii with
  | [] => none
  | c :: rest =>
    let first := cs.length - (rest.length + 1)
    some ⟨first, first + (rest.takeWhile fun d => !isAscii d).length, c⟩

end CodeAtlas.Ascii

/-! ## Numbers with a comma before every third digit from the right -/

namespace CodeAtlas.Grouped

/-- A number below a thousand as three digits. -/
def threeDigits (n : Nat) : String :=
  String.ofList [Nat.digitChar (n / 100), Nat.digitChar (n / 10 % 10), Nat.digitChar (n % 10)]

/-- The digits of a number in groups of three. -/
def ofNat (n : Nat) : String :=
  if n < 1000 then toString n else ofNat (n / 1000) ++ "," ++ threeDigits (n % 1000)
termination_by n
decreasing_by omega

/-- The digits of a whole number in groups of three. -/
def ofInt : Int → String
  | .ofNat n => ofNat n
  | .negSucc n => "-" ++ ofNat (n + 1)

end CodeAtlas.Grouped
