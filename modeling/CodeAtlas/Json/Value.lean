-- JSON values, and how they are written. The members of an object keep their order.
import CodeAtlas.Text.Quoted

namespace CodeAtlas

/-- A JSON value. Numbers that are not whole keep their text. -/
inductive Json where
  | null
  | bool (b : Bool)
  | int (n : Int)
  | decimal (digits : String)
  | text (s : String)
  | list (items : List Json)
  | object (members : List (String × Json))

namespace Json

instance : Inhabited Json := ⟨null⟩

/-! ## Equality -/

mutual

def same : Json → Json → Bool
  | null, null => true
  | bool a, bool b => a = b
  | int a, int b => a = b
  | decimal a, decimal b => a = b
  | text a, text b => a = b
  | list a, list b => sameItems a b
  | object a, object b => sameMembers a b
  | _, _ => false

def sameItems : List Json → List Json → Bool
  | [], [] => true
  | a :: as, b :: bs => same a b && sameItems as bs
  | _, _ => false

/-- `same` of the members of two objects. -/
def sameMembers : List (String × Json) → List (String × Json) → Bool
  | [], [] => true
  | (k, a) :: as, (l, b) :: bs => k = l && same a b && sameMembers as bs
  | _, _ => false

end

mutual

theorem same_iff : (a b : Json) → (same a b = true ↔ a = b)
  | null, b => by cases b <;> simp [same]
  | bool a, b => by cases b <;> simp [same]
  | int a, b => by cases b <;> simp [same]
  | decimal a, b => by cases b <;> simp [same]
  | text a, b => by cases b <;> simp [same]
  | list as, b => by cases b <;> simp [same, sameItems_iff as]
  | object as, b => by cases b <;> simp [same, sameMembers_iff as]

theorem sameItems_iff : (as bs : List Json) → (sameItems as bs = true ↔ as = bs)
  | [], bs => by cases bs <;> simp [sameItems]
  | a :: as, bs => by cases bs <;> simp [sameItems, same_iff a, sameItems_iff as]

theorem sameMembers_iff :
    (as bs : List (String × Json)) → (sameMembers as bs = true ↔ as = bs)
  | [], bs => by cases bs <;> simp [sameMembers]
  | (k, a) :: as, bs => by
    cases bs <;> simp [sameMembers, same_iff a, sameMembers_iff as, Prod.ext_iff]

end

instance : DecidableEq Json := fun a b => decidable_of_iff (same a b = true) (same_iff a b)

/-! ## Parts -/

/-- The member of an object that is called so. Of several the last one counts. -/
def get? (j : Json) (key : String) : Option Json :=
  match j with
  | object members => members.reverse.lookup key
  | _ => none

/-- The text of a text. -/
def text? : Json → Option String
  | text s => some s
  | _ => none

/-- The number of a whole number. -/
def int? : Json → Option Int
  | int n => some n
  | _ => none

def list? : Json → Option (List Json)
  | list items => some items
  | _ => none

def members? : Json → Option (List (String × Json))
  | object members => some members
  | _ => none

def isText (j : Json) : Bool := j.text?.isSome

/-- The value has no parts. -/
def isSimple : Json → Bool
  | list _ | object _ => false
  | _ => true

def ofTexts (texts : List String) : Json := list (texts.map text)

def ofText? : Option String → Json
  | some s => text s
  | none => null

/-- A whole number, or null. -/
def ofInt? : Option Int → Json
  | some n => int n
  | none => null

/-! ## Inside of running text and addresses

A text stands there as it is, and in lists and objects it has quotes. -/

mutual

/-- A value as a part of a list or an object. -/
def spelled : Json → String
  | null => "None"
  | bool b => if b then "True" else "False"
  | int n => toString n
  | decimal digits => digits
  | text s => Quoted.quote s
  | list items => "[" ++ String.intercalate ", " (spelledItems items) ++ "]"
  | object members => "\x7b" ++ String.intercalate ", " (spelledMembers members) ++ "\x7d"

def spelledItems : List Json → List String
  | [] => []
  | j :: js => spelled j :: spelledItems js

def spelledMembers : List (String × Json) → List String
  | [] => []
  | (key, j) :: rest => (Quoted.quote key ++ ": " ++ spelled j) :: spelledMembers rest

end

/-- A value by itself. -/
def shown : Json → String
  | text s => s
  | j => j.spelled

/-- The digits of a number before its power of ten are all zeros. -/
def isZero (digits : String) : Bool :=
  let ds := (digits.toList.takeWhile fun c => c ≠ 'e' && c ≠ 'E').filter Char.isDigit
  !ds.isEmpty && ds.all (· = '0')

/-- The value says nothing: null, false, zero, or something empty. -/
def isVoid : Json → Bool
  | null => true
  | bool b => !b
  | int n => n = 0
  | decimal digits => isZero digits
  | text s => s.isEmpty
  | list items => items.isEmpty
  | object members => members.isEmpty

/-! ## Texts with their quotes -/

/-- A UTF-16 unit by its number. -/
def escapeUnit (unit : Nat) : List Char := '\\' :: 'u' :: Quoted.hex 4 unit

/-- How a character stands in a JSON text. All but the plain ASCII characters are written by
number, those above the first plane as two UTF-16 units. -/
def escape (c : Char) : List Char :=
  let v := c.toNat
  if c = '"' || c = '\\' then ['\\', c]
  else if c = '\n' then ['\\', 'n']
  else if c = '\r' then ['\\', 'r']
  else if c = '\t' then ['\\', 't']
  else if v = 8 then ['\\', 'b']
  else if v = 12 then ['\\', 'f']
  else if 0x20 ≤ v && v < 0x7F then [c]
  else if v < 0x10000 then escapeUnit v
  else
    escapeUnit (0xD800 + (v - 0x10000) / 0x400) ++ escapeUnit (0xDC00 + (v - 0x10000) % 0x400)

/-- A text with its quotes. -/
def quoted (s : String) : String := String.ofList ('"' :: s.toList.flatMap escape ++ ['"'])

def truth (b : Bool) : String := if b then "true" else "false"

/-! ## One line -/

mutual

/-- A value on one line, with a blank after every comma and colon. -/
def line : Json → String
  | null => "null"
  | bool b => truth b
  | int n => toString n
  | decimal digits => digits
  | text s => quoted s
  | list items => "[" ++ String.intercalate ", " (lineItems items) ++ "]"
  | object members => "\x7b" ++ String.intercalate ", " (lineMembers members) ++ "\x7d"

def lineItems : List Json → List String
  | [] => []
  | j :: js => line j :: lineItems js

def lineMembers : List (String × Json) → List String
  | [] => []
  | (key, j) :: rest => (quoted key ++ ": " ++ line j) :: lineMembers rest

end

/-! ## Many lines -/

/-- The start of a line, two blanks for each level. -/
def indent (level : Nat) : String := String.ofList ('\n' :: List.replicate (2 * level) ' ')

/-- Parts between brackets, each on a line of its own. Brackets with nothing in them stay
together. -/
def bracketed (opening closing : String) (level : Nat) (parts : List String) : String :=
  if parts.isEmpty then opening ++ closing
  else
    opening ++ indent (level + 1) ++ String.intercalate ("," ++ indent (level + 1)) parts
      ++ indent level ++ closing

mutual

/-- A value over several lines, when it starts on a line at this level. -/
def spread (level : Nat) : Json → String
  | null => "null"
  | bool b => truth b
  | int n => toString n
  | decimal digits => digits
  | text s => quoted s
  | list items => bracketed "[" "]" level (spreadItems (level + 1) items)
  | object members => bracketed "\x7b" "\x7d" level (spreadMembers (level + 1) members)

def spreadItems (level : Nat) : List Json → List String
  | [] => []
  | j :: js => spread level j :: spreadItems level js

def spreadMembers (level : Nat) : List (String × Json) → List String
  | [] => []
  | (key, j) :: rest => (quoted key ++ ": " ++ spread level j) :: spreadMembers level rest

end

/-- A value as a document over several lines. -/
def pretty (j : Json) : String := spread 0 j

end Json

end CodeAtlas
