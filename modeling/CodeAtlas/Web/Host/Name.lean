-- Names of hosts with characters beyond ASCII.
import CodeAtlas.Text.Quoted
import CodeAtlas.Text.Segments
import CodeAtlas.Web.Host.Composite
import CodeAtlas.Web.Host.Letter
import CodeAtlas.Web.Host.Punycode
import CodeAtlas.Web.Host.Script

namespace CodeAtlas.Host

/-! ## Signs that need the right company -/

/-- The character joins the letters beside it, or parts them. -/
def isJoiner (c : Char) : Bool := c = '\u200c' || c = '\u200d'

/-- The character may stand where it does. What stands before it comes nearest first. A dot in
the middle stands between two l, a sign for a script next to its letters, and digits of Arabic
and Persian not together; letters are parted only where they would be joined, and joined only
after a lost vowel. -/
def isInPlace (whole before : List Char) (c : Char) (after : List Char) : Bool :=
  if c = '\u00b7' then before.head? = some 'l' && after.head? = some 'l'
  else if c = '\u0375' then after.head?.any isGreek
  else if c = '\u05f3' || c = '\u05f4' then before.head?.any isHebrew
  else if c = '\u30fb' then whole.any isEastAsian
  else if isArabicDigit c then !whole.any isPersianDigit
  else if isPersianDigit c then !whole.any isArabicDigit
  else if c = '\u200c' then before.head?.any isVirama || isJoint before after
  else if c = '\u200d' then before.head?.any isVirama
  else true

/-! ## Faults -/

/-- Why a text is no part of a name: it is empty, or not written as short as can be; it has
hyphens together at its third place, or at an end; it starts with a mark; a character at a place
may not be there at all, or not in this company, or has nothing to join or part; it cannot be
written in one direction; it is an empty code, one that ends in a hyphen, or one that stands for
nothing; or it is too long. -/
inductive PartFault where
  | empty
  | notComposed
  | hyphensInside
  | hyphenAtEnd
  | startsWithMark
  | character (c : Char) (place : Nat) (part : String)
  | company (c : Char) (place : Nat) (part : String)
  | joiner (c : Char) (place : Nat) (part : String)
  | direction (f : DirectionFault)
  | noCode
  | codeEnds
  | badCode
  | tooLong
  deriving DecidableEq

namespace PartFault

/-- How the number of a character is written. -/
def numberOf (c : Char) : String :=
  "U+" ++ String.ofList ((Quoted.hex 4 c.toNat).map Char.toUpper)

/-- What is said of a text that is no part of a name. -/
def message : PartFault → String
  | empty => "Empty Label"
  | notComposed => "Label must be in Normalization Form C"
  | hyphensInside => "Label has disallowed hyphens in 3rd and 4th position"
  | hyphenAtEnd => "Label must not start or end with a hyphen"
  | startsWithMark => "Label begins with an illegal combining character"
  | character c place part =>
    "Codepoint " ++ numberOf c ++ " at position " ++ toString place ++ " of " ++ Quoted.quote part
      ++ " not allowed"
  | company c place part =>
    "Codepoint " ++ numberOf c ++ " not allowed at position " ++ toString place ++ " in "
      ++ Quoted.quote part
  | joiner c place part =>
    "Unknown codepoint adjacent to joiner " ++ numberOf c ++ " at position " ++ toString place
      ++ " in " ++ Quoted.quote part
  | direction f => f.message
  | noCode => "Malformed A-label, no Punycode eligible content found"
  | codeEnds => "A-label must not end with a hyphen"
  | badCode => "Invalid A-label"
  | tooLong => "Domain too long"

end PartFault

/-- The first character of a part that may not stand where it does. -/
def characterFault? (whole before : List Char) : List Char → Option PartFault
  | [] => none
  | c :: after =>
    let place := before.length + 1
    let part := String.ofList whole
    if !isLetter c then some (.character c place part)
    else if isInPlace whole before c after then characterFault? whole (c :: before) after
    else if isJoiner c then some (.joiner c place part)
    else some (.company c place part)

/-- Why a text is no part of a name. -/
def partFault? (cs : List Char) : Option PartFault :=
  if cs.isEmpty then some .empty
  else if !isComposed cs then some .notComposed
  else if (cs.drop 2).take 2 = ['-', '-'] then some .hyphensInside
  else if cs.head? = some '-' || cs.getLast? = some '-' then some .hyphenAtEnd
  else if cs.head?.any isMark then some .startsWithMark
  else (characterFault? cs [] cs).or ((directionFault? cs).map .direction)

/-! ## Codes -/

/-- What a part starts with that is a code for others. -/
def codeMark : List Char := "xn--".toList

/-- The part that a code stands for, if the part is one. -/
def uncoded (cs : List Char) : Except PartFault (List Char) :=
  let code := cs.drop codeMark.length
  if !codeMark.isPrefixOf cs then .ok cs
  else if code.isEmpty then .error .noCode
  else if code.getLast? = some '-' then .error .codeEnds
  else
    match Punycode.decode code with
    | some part => .ok part
    | none => .error .badCode

/-- The part as it is asked for. -/
def coded (cs : List Char) : List Char :=
  if cs.all Ascii.isAscii then cs else codeMark ++ Punycode.encode cs

/-- Why a text, or what it is a code for, is no part of a name. -/
def codedFault? (cs : List Char) : Option PartFault :=
  match uncoded cs with
  | .ok part => partFault? part
  | .error f => some f

/-! ## Names -/

/-- The dots between the parts of a name. -/
def dots : List Char := ['.', '。', '．', '｡']

/-- The parts of a name. The last one may be empty and is left out. -/
def partsOf (cs : List Char) : List (List Char) :=
  let parts := Segments.split '.' (cs.map fun c => if dots.contains c then '.' else c)
  if parts.getLast? = some [] then parts.dropLast else parts

/-- How many characters a part may have as it is asked for. -/
def maxPart : Nat := 63

/-- How many characters a name may have as it is asked for, without a dot at its end. -/
def maxName : Nat := 253

/-- Why a text is no name. -/
def nameFault? (cs : List Char) : Option PartFault :=
  if maxName + 1 < cs.length then some .tooLong else (partsOf cs).findSome? codedFault?

/-- A name with characters beyond ASCII. Capitals count as small letters. -/
def isInternational (cs : List Char) : Bool :=
  let name := cs.flatMap Capital.small
  let parts := (partsOf name).map coded
  (nameFault? name).isNone && parts.all (fun p => p.length ≤ maxPart)
    && (Segments.join '.' parts).length ≤ maxName

end CodeAtlas.Host
