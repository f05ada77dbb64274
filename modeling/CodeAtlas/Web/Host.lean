-- Hosts: names, and numbers in the two forms that networks have for them.
import CodeAtlas.Json.Reader
import CodeAtlas.Text.Quoted
import CodeAtlas.Web.Host.Name

namespace CodeAtlas.Host

/-! ## Four numbers -/

/-- The text looks like four numbers with dots between them. -/
def isQuad (cs : List Char) : Bool :=
  let groups := Segments.split '.' cs
  groups.length = 4 && groups.all fun g => !g.isEmpty && g.all Char.isDigit

/-- A number up to 255 with no zero in front. -/
def isOctet (cs : List Char) : Bool :=
  !cs.isEmpty && cs.all Char.isDigit && cs.length ≤ 3 && (cs = ['0'] || cs.head? ≠ some '0')
    && Json.digitsValue cs ≤ 255

/-- Four numbers with dots between them. -/
def isDotted (cs : List Char) : Bool :=
  let octets := Segments.split '.' cs
  octets.length = 4 && octets.all isOctet

/-! ## Eight groups -/

/-- Up to four hexadecimal digits. -/
def isGroup (cs : List Char) : Bool :=
  !cs.isEmpty && cs.length ≤ 4 && cs.all fun c => (Json.hexDigit? c).isSome

/-- Groups where four numbers with dots at the end count as two groups. -/
def expand (groups : List (List Char)) : Option (List (List Char)) :=
  match groups.getLast? with
  | some last =>
    if !last.contains '.' then some groups
    else if isDotted last then some (groups.dropLast ++ [['0'], ['0']])
    else none
  | none => none

/-- All groups are there, or a single gap stands for one or more of them. A gap at an end leaves
that end empty. -/
def areGroups (groups : List (List Char)) : Bool :=
  let inner := (groups.drop 1).dropLast
  match inner.count [] with
  | 0 => groups.length = 8 && groups.all isGroup
  | 1 =>
    let before := groups.take ((inner.takeWhile (· ≠ [])).length + 1)
    let after := groups.drop (before.length + 1)
    let high := if before.head? = some [] then before.drop 1 else before
    let low := if after.getLast? = some [] then after.dropLast else after
    (before = high || high.isEmpty) && (after = low || low.isEmpty)
      && high.length + low.length < 8 && high.all isGroup && low.all isGroup
  | _ => false

/-- A zone may follow the groups after a percent sign. -/
def splitZone (cs : List Char) : List Char × Option (List Char) :=
  match cs.dropWhile (· ≠ '%') with
  | [] => (cs, none)
  | _ :: zone => (cs.takeWhile (· ≠ '%'), some zone)

/-- Groups with colons between them. -/
def isGrouped (cs : List Char) : Bool :=
  let (address, zone) := splitZone cs
  let groups := Segments.split ':' address
  let zoneFits :=
    match zone with
    | none => true
    | some zone => !zone.isEmpty && !zone.contains '%'
  zoneFits && 3 ≤ groups.length
    && match expand groups with
      | none => false
      | some groups => groups.length ≤ 9 && areGroups groups

/-! ## All hosts -/

/-- The host stands in brackets. -/
def isBracketed (cs : List Char) : Bool := cs.head? = some '[' && cs.getLast? = some ']'

/-- The host can be asked. -/
def isValid (cs : List Char) : Bool :=
  if isQuad cs then isDotted cs
  else if isBracketed cs then isGrouped (cs.drop 1).dropLast
  else cs.all Ascii.isAscii || isInternational cs

/-! ## Codes in a name -/

/-- The characters that are escaped in a name. -/
def escapedInName : List Char := [' ', '<', '>', '[', ']', '^']

/-- A name in ASCII with its escapes, all in small letters. -/
def sentName (cs : List Char) : List Char :=
  cs.flatMap fun c =>
    if escapedInName.contains c then '%' :: Quoted.hex 2 c.toNat else [c.toLower]

/-- Why a name in ASCII that starts with a code cannot be shown as what it stands for. -/
def codeFault? (cs : List Char) : Option PartFault :=
  let name := sentName cs
  if codeMark.isPrefixOf name && cs.all Ascii.isAscii then nameFault? name else none

/-! ## Brackets in a zone -/

/-- Why an answer of a host in brackets cannot be told apart from those of others: a bracket in
its zone ends it too early, or what stands before that bracket are no groups. -/
inductive BracketFault where
  | unbalanced
  | noGroups (text : String)
  deriving DecidableEq

def BracketFault.message : BracketFault → String
  | unbalanced => "Invalid IPv6 URL"
  | noGroups text => Quoted.quote text ++ " does not appear to be an IPv4 or IPv6 address"

/-- The fault of a host in brackets. Behind the first closing bracket, a colon may follow. -/
def bracketFault? (cs : List Char) : Option BracketFault :=
  let inside := (cs.drop 1).takeWhile (· ≠ ']')
  let after := (cs.drop 1).drop (inside.length + 1)
  if !isBracketed cs then none
  else if after ≠ [] && after.head? ≠ some ':' then some .unbalanced
  else if isGrouped inside then none
  else some (.noGroups (String.ofList inside))

end CodeAtlas.Host
