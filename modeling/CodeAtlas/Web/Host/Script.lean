-- What the signs in the name of a host ask of the letters around them: scripts, joining, direction.
-- Only those characters are told apart that such a name may have.
import CodeAtlas.Text.Characters
import CodeAtlas.Text.Quoted
import CodeAtlas.Web.Host.Mark

/-! ## Scripts -/

namespace CodeAtlas.Host

/-- The letters of Greek. -/
def greek : List (Nat × Nat) :=
  [(0x371, 0x3E1), (0x3F3, 0x3FC), (0x1D26, 0x1D2A), (0x1F00, 0x1FF6), (0xAB65, 0xAB65)]

/-- The letters of Hebrew. -/
def hebrew : List (Nat × Nat) :=
  [(0x591, 0x5F4), (0xFB1E, 0xFB1E)]

/-- The letters of Japanese and Chinese. -/
def eastAsian : List (Nat × Nat) :=
  [(0x3005, 0x3005), (0x3007, 0x3007), (0x3041, 0x3096), (0x309D, 0x30FA), (0x30FD, 0x30FE),
    (0x31F0, 0x9FFF), (0xFA0E, 0xFA29), (0x16FE3, 0x16FE3), (0x16FF0, 0x16FF1),
    (0x1AFF0, 0x1B167), (0x20000, 0x3134A)]

def isGreek (c : Char) : Bool := Ranges.cover greek c

def isHebrew (c : Char) : Bool := Ranges.cover hebrew c

/-- A letter of Japanese or Chinese. -/
def isEastAsian (c : Char) : Bool := Ranges.cover eastAsian c

def isArabicDigit (c : Char) : Bool := 0x660 ≤ c.toNat && c.toNat ≤ 0x669

def isPersianDigit (c : Char) : Bool := 0x6F0 ≤ c.toNat && c.toNat ≤ 0x6F9

/-! ## Letters that are written joined to those beside them -/

/-- To which letters beside it a letter is joined. -/
inductive Joining where
  | both
  | next
  | previous
  | neither
  deriving DecidableEq

namespace Joining

/-- The letters that are joined to others. -/
def ranges : List (Nat × Nat × Joining) :=
  [(0x620, 0x620, .both), (0x622, 0x625, .previous), (0x626, 0x626, .both),
    (0x627, 0x627, .previous), (0x628, 0x628, .both), (0x629, 0x629, .previous),
    (0x62A, 0x62E, .both), (0x62F, 0x632, .previous), (0x633, 0x647, .both),
    (0x648, 0x648, .previous), (0x649, 0x64A, .both), (0x66E, 0x66F, .both),
    (0x671, 0x673, .previous), (0x679, 0x687, .both), (0x688, 0x699, .previous),
    (0x69A, 0x6BF, .both), (0x6C0, 0x6C0, .previous), (0x6C1, 0x6C2, .both),
    (0x6C3, 0x6CB, .previous), (0x6CC, 0x6CC, .both), (0x6CD, 0x6CD, .previous),
    (0x6CE, 0x6CE, .both), (0x6CF, 0x6CF, .previous), (0x6D0, 0x6D1, .both),
    (0x6D2, 0x6D5, .previous), (0x6EE, 0x6EF, .previous), (0x6FA, 0x6FC, .both),
    (0x6FF, 0x6FF, .both), (0x710, 0x710, .previous), (0x712, 0x714, .both),
    (0x715, 0x719, .previous), (0x71A, 0x71D, .both), (0x71E, 0x71E, .previous),
    (0x71F, 0x727, .both), (0x728, 0x728, .previous), (0x729, 0x729, .both),
    (0x72A, 0x72A, .previous), (0x72B, 0x72B, .both), (0x72C, 0x72C, .previous),
    (0x72D, 0x72E, .both), (0x72F, 0x74D, .previous), (0x74E, 0x758, .both),
    (0x759, 0x75B, .previous), (0x75C, 0x76A, .both), (0x76B, 0x76C, .previous),
    (0x76D, 0x770, .both), (0x771, 0x771, .previous), (0x772, 0x772, .both),
    (0x773, 0x774, .previous), (0x775, 0x777, .both), (0x778, 0x779, .previous),
    (0x77A, 0x77F, .both), (0x7CA, 0x7EA, .both), (0x840, 0x840, .previous),
    (0x841, 0x845, .both), (0x846, 0x847, .previous), (0x848, 0x848, .both),
    (0x849, 0x849, .previous), (0x84A, 0x853, .both), (0x854, 0x854, .previous),
    (0x855, 0x855, .both), (0x856, 0x858, .previous), (0x860, 0x860, .both),
    (0x862, 0x865, .both), (0x867, 0x867, .previous), (0x868, 0x868, .both),
    (0x869, 0x882, .previous), (0x886, 0x886, .both), (0x889, 0x88D, .both),
    (0x88E, 0x88E, .previous), (0x8A0, 0x8A9, .both), (0x8AA, 0x8AC, .previous),
    (0x8AE, 0x8AE, .previous), (0x8AF, 0x8B0, .both), (0x8B1, 0x8B2, .previous),
    (0x8B3, 0x8B8, .both), (0x8B9, 0x8B9, .previous), (0x8BA, 0x8C8, .both),
    (0x1820, 0x1878, .both), (0x1887, 0x18AA, .both), (0xA840, 0xA871, .both),
    (0xA872, 0xA872, .next), (0x10AC0, 0x10AC4, .both), (0x10AC5, 0x10AC5, .previous),
    (0x10AC7, 0x10ACA, .previous), (0x10ACD, 0x10ACD, .next), (0x10ACE, 0x10AD2, .previous),
    (0x10AD3, 0x10AD6, .both), (0x10AD7, 0x10AD7, .next), (0x10AD8, 0x10ADC, .both),
    (0x10ADD, 0x10ADD, .previous), (0x10ADE, 0x10AE0, .both), (0x10AE1, 0x10AE1, .previous),
    (0x10AE4, 0x10AE4, .previous), (0x10B80, 0x10B80, .both), (0x10B81, 0x10B81, .previous),
    (0x10B82, 0x10B82, .both), (0x10B83, 0x10B85, .previous), (0x10B86, 0x10B88, .both),
    (0x10B89, 0x10B89, .previous), (0x10B8A, 0x10B8B, .both), (0x10B8C, 0x10B8C, .previous),
    (0x10B8D, 0x10B8D, .both), (0x10B8E, 0x10B8F, .previous), (0x10B90, 0x10B90, .both),
    (0x10B91, 0x10B91, .previous), (0x10D00, 0x10D00, .next), (0x10D01, 0x10D21, .both),
    (0x10D22, 0x10D22, .previous), (0x10D23, 0x10D23, .both), (0x10F30, 0x10F32, .both),
    (0x10F33, 0x10F33, .previous), (0x10F34, 0x10F44, .both), (0x10F70, 0x10F73, .both),
    (0x10F74, 0x10F75, .previous), (0x10F76, 0x10FB0, .both), (0x10FB2, 0x10FB3, .both),
    (0x10FB4, 0x10FB6, .previous), (0x10FB8, 0x10FB8, .both), (0x10FB9, 0x10FBA, .previous),
    (0x10FBB, 0x10FBC, .both), (0x10FBD, 0x10FBD, .previous), (0x10FBE, 0x10FBF, .both),
    (0x10FC1, 0x10FC1, .both), (0x10FC2, 0x10FC3, .previous), (0x10FC4, 0x10FC4, .both),
    (0x1E922, 0x1E943, .both)]

/-- To which letters beside it a character is joined. -/
def ofChar (c : Char) : Joining := (Ranges.value? ranges c).getD neither

/-- Letters are joined across the character: a mark that takes no room, or the sign of Adlam that
is called so. The medial ra of Ahom does take room. -/
def isCrossed (c : Char) : Bool := c.toNat = 0x1E94B || isNonspacing c && c.toNat ≠ 0x1171E

/-- The letter is joined to the next one. -/
def isOpen (j : Joining) : Bool := j = both || j = next

/-- The letter is joined to the previous one. -/
def isClosed (j : Joining) : Bool := j = both || j = previous

end Joining

/-- The letters on both sides of a place would be joined. What stands before it comes nearest
first. -/
def isJoint (before after : List Char) : Bool :=
  ((before.dropWhile Joining.isCrossed).head?.any fun c => (Joining.ofChar c).isOpen)
    && ((after.dropWhile Joining.isCrossed).head?.any fun c => (Joining.ofChar c).isClosed)

/-! ## Directions of writing -/

/-- How a character is written: from the left, from the right, from the right as Arabic is, as a
number of either kind, with the letter that it marks, or as what stands around it. -/
inductive Direction where
  | left
  | right
  | arabic
  | number
  | arabicNumber
  | mark
  | neutral
  deriving DecidableEq

namespace Direction

/-- The characters that are no marks and do not start from the left. -/
def ranges : List (Nat × Nat × Direction) :=
  [(0x2D, 0x2D, .neutral), (0x30, 0x39, .number), (0xB7, 0xB7, .neutral),
    (0x2B9, 0x2BA, .neutral), (0x2C6, 0x2CF, .neutral), (0x2EC, 0x2EC, .neutral),
    (0x375, 0x375, .neutral), (0x5D0, 0x5F4, .right), (0x620, 0x64A, .arabic),
    (0x660, 0x669, .arabicNumber), (0x66E, 0x6EF, .arabic), (0x6F0, 0x6F9, .number),
    (0x6FA, 0x7B1, .arabic), (0x7C0, 0x858, .right), (0x860, 0x8C9, .arabic),
    (0x200C, 0x200D, .neutral), (0x2E2F, 0x2E2F, .neutral), (0x30FB, 0x30FB, .neutral),
    (0xA67F, 0xA67F, .neutral), (0xA717, 0xA71F, .neutral), (0xA788, 0xA788, .neutral),
    (0xFE73, 0xFE73, .arabic), (0x10800, 0x10CF2, .right), (0x10D00, 0x10D23, .arabic),
    (0x10D30, 0x10D39, .arabicNumber), (0x10E80, 0x10F27, .right), (0x10F30, 0x10F45, .arabic),
    (0x10F70, 0x10FF6, .right), (0x1E800, 0x1E959, .right)]

/-- The nonspacing marks that are written as letters that start from the left. -/
def leftMarks : List Nat := [0xCBF, 0xCC6, 0x11A07, 0x11A08, 0x11C3F]

/-- How a character is written. -/
def ofChar (c : Char) : Direction :=
  if leftMarks.contains c.toNat then left
  else if isNonspacing c then mark
  else (Ranges.value? ranges c).getD left

/-- The character starts from the right. -/
def isRight (d : Direction) : Bool := d = right || d = arabic

/-- The character makes a text one that is not written from the left alone. -/
def isMixing (d : Direction) : Bool := d.isRight || d = arabicNumber

/-- The character is a number of either kind. -/
def isNumber (d : Direction) : Bool := d = number || d = arabicNumber

/-- A text from the right may end with it. -/
def canEnd (d : Direction) : Bool := d.isRight || d.isNumber

end Direction

/-- Why a text cannot be written in one direction: it has characters from the right, but its first
one is a sign; or a character at a place goes against the direction of the first; or there are
numbers of both kinds; or it ends with a sign. -/
inductive DirectionFault where
  | first (text : String)
  | against (place : Nat) (fromRight : Bool)
  | mixedNumbers
  | ending
  deriving DecidableEq

namespace DirectionFault

/-- What is said of a text that cannot be written in one direction. -/
def message : DirectionFault → String
  | first text =>
    "First codepoint in label " ++ Quoted.quote text ++ " must be directionality L, R or AL"
  | against place fromRight =>
    "Invalid direction for codepoint at position " ++ toString place ++ " in a "
      ++ (if fromRight then "right-to-left" else "left-to-right") ++ " label"
  | mixedNumbers => "Can not mix numeral types in a right-to-left label"
  | ending => "Label ends with illegal codepoint directionality"

end DirectionFault

/-- The fault of a text from the right, from a place on. The kind of its numbers is known once one
has come, and what came last decides whether it may end. -/
def rightFault? (place : Nat) (numbers : Option Direction) (ends : Bool) :
    List Direction → Option DirectionFault
  | [] => if ends then none else some .ending
  | d :: ds =>
    if d = .left then some (.against place true)
    else if d.isNumber && numbers.any (· ≠ d) then some .mixedNumbers
    else
      rightFault? (place + 1) (if d.isNumber then some d else numbers)
        (if d = .mark then ends else d.canEnd) ds

/-- The fault of a text from the left, from a place on. -/
def leftFault? (place : Nat) : List Direction → Option DirectionFault
  | [] => none
  | d :: ds => if d.isMixing then some (.against place false) else leftFault? (place + 1) ds

/-- Why a text cannot be written in one direction. -/
def directionFault? (cs : List Char) : Option DirectionFault :=
  let ds := cs.map Direction.ofChar
  if !ds.any Direction.isMixing then none
  else if ds.head?.any Direction.isRight then rightFault? 1 none false ds
  else if ds.head? = some .left then leftFault? 1 ds
  else some (.first (String.ofList cs))

end CodeAtlas.Host
