-- The form of requests: which texts can be asked for at all. A transport that goes by it is the one
-- with which the program runs; what is said of the web elsewhere holds for any.
import CodeAtlas.Text.Characters
import CodeAtlas.Web.Client
import CodeAtlas.Web.Host

namespace CodeAtlas

namespace Url

/-- How many characters a request may have, and its path and its query as they are sent. -/
def maxLength : Nat := 65536

/-- The character is an ASCII one that is not printed. -/
def isControl (c : Char) : Bool := c.toNat < 0x20 || c.toNat = 0x7F

/-- The parts of a request that decide whether it can be asked for. The service is the number that
stands after the host. -/
structure Parts where
  scheme : List Char
  user : List Char
  host : List Char
  service : List Char
  path : List Char
  query : List Char
  deriving DecidableEq

/-! ## Taking apart -/

/-- The character starts what follows a path. -/
def endsPath (c : Char) : Bool := c = '?' || c = '#'

/-- The scheme before a colon, and what follows. -/
def splitScheme (cs : List Char) : List Char × List Char :=
  let scheme := cs.takeWhile fun c => c.isAlphanum || ['+', '.', '-'].contains c
  match cs.drop scheme.length with
  | ':' :: rest =>
    match scheme with
    | [] => ([], rest)
    | c :: _ => if c.isAlpha then (scheme, rest) else ([], cs)
  | _ => ([], cs)

/-- What stands after a double slash up to the path, and what follows. -/
def splitAuthority (cs : List Char) : List Char × List Char :=
  match cs with
  | '/' :: '/' :: rest =>
    (rest.takeWhile fun c => c ≠ '/' && !endsPath c, rest.dropWhile fun c => c ≠ '/' && !endsPath c)
  | _ => ([], cs)

/-- What stands before the last separator, and what follows it. -/
def splitLast (sep : Char) (cs : List Char) : Option (List Char × List Char) :=
  if cs.contains sep then
    let after := (cs.reverse.takeWhile (· ≠ sep)).reverse
    some (cs.take (cs.length - after.length - 1), after)
  else none

/-- The host, with brackets up to the last one, and what follows. -/
def splitHost (cs : List Char) : List Char × List Char :=
  match cs, splitLast ']' cs with
  | '[' :: _, some (before, after) => (before ++ [']'], after)
  | _, _ => (cs.takeWhile (· ≠ ':'), cs.dropWhile (· ≠ ':'))

/-- Drops one colon at the front. -/
def dropColon : List Char → List Char
  | ':' :: rest => rest
  | cs => cs

/-- The parts of a request. -/
def partsOf (cs : List Char) : Parts :=
  let (scheme, rest) := splitScheme cs
  let (authority, rest) := splitAuthority rest
  let (user, server) := (splitLast '@' authority).getD ([], authority)
  let (host, service) := splitHost server
  { scheme, user, host, service := dropColon service
    path := rest.takeWhile fun c => !endsPath c
    query := ((rest.takeWhile (· ≠ '#')).dropWhile (· ≠ '?')).drop 1 }

/-! ## Whether it can be asked for -/

/-- How many characters are sent for one: three for each byte of those that are escaped. -/
def sentLength (escaped : List Char) (c : Char) : Nat :=
  if c.toNat < 0x80 && !escaped.contains c then 1 else 3 * c.utf8Size

/-- How many characters are sent for some. -/
def sentLengths (escaped : List Char) (cs : List Char) : Nat :=
  cs.foldl (fun n c => n + sentLength escaped c) 0

/-- The ASCII characters that are escaped in a query. -/
def escapedInQuery : List Char := [' ', '"', '#', '<', '>']

/-- The ASCII characters that are escaped in a path. -/
def escapedInPath : List Char := escapedInQuery ++ ['?', '\x60', '\x7b', '\x7d']

/-- A request that names a scheme and a host is sent there. Any other is put behind the address of
the web. -/
def Parts.isAbsolute (p : Parts) : Bool := !p.scheme.isEmpty && !p.host.isEmpty

/-- A request with nothing but a path and a query. -/
def Parts.isPlain (p : Parts) : Bool :=
  p.scheme.isEmpty && p.user.isEmpty && p.host.isEmpty && p.service.isEmpty

/-- Walks along a path: a dot stays, and two dots go back, but not over the start. -/
def walked (done : List (List Char)) : List (List Char) → List (List Char)
  | [] => done
  | ['.'] :: rest => walked done rest
  | ['.', '.'] :: rest => walked (if done = [[]] then done else done.dropLast) rest
  | step :: rest => walked (done ++ [step]) rest

/-- The path as it is sent. Only a plain one keeps its dots. -/
def Parts.sentPath (p : Parts) : List Char :=
  if p.isPlain then p.path else Segments.join '/' (walked [] (Segments.split '/' p.path))

/-- A request that is put behind the address of the web, with one slash, is not too long there. -/
def Parts.sentFits (p : Parts) : Bool :=
  let path := '/' :: p.sentPath.dropWhile (· = '/')
  p.isAbsolute
    || sentLengths escapedInPath path ≤ maxLength && sentLengths escapedInQuery p.query ≤ maxLength

/-- A plain path starts neither with two slashes nor with a colon. -/
def Parts.pathFits (p : Parts) : Bool :=
  !p.isPlain || !(['/', '/'].isPrefixOf p.path || [':'].isPrefixOf p.path)

/-- The request can be asked for. -/
def isValid (url : String) : Bool :=
  let cs := url.toList
  let parts := partsOf cs
  cs.length ≤ maxLength && !cs.any isControl && Host.isValid parts.host
    && (parts.service.isEmpty || Decimal.isInteger parts.service)
    && parts.pathFits && parts.sentFits

/-! ## Whether it can be sent -/

/-- The request whose host cannot be told is refused for what is wrong with a part of its name. -/
def partRefusal (f : Host.PartFault) : Refusal where
  kind :=
    match f with
    | .character _ _ _ => .character
    | .company _ _ _ => .company
    | .direction _ => .direction
    | _ => .hostPart
  message := f.message

/-- Why a request is not sent. The name of its host may be a code for nothing, and the zone of a
host in brackets is sent as it is, which only ASCII can be. -/
def refusal? (url : String) : Option Refusal :=
  let parts := partsOf url.toList
  if !isValid url then some ⟨.address, "no valid address: " ++ url⟩
  else if !parts.isAbsolute then none
  else if Host.isBracketed parts.host then
    (Ascii.fault? parts.host).map fun f => ⟨.encoding, f.message⟩
  else (Host.codeFault? parts.host).map partRefusal

/-- Why the answer to a request is not taken. -/
def answerRefusal? (url : String) : Option Refusal :=
  let parts := partsOf url.toList
  if parts.isAbsolute then (Host.bracketFault? parts.host).map fun f => ⟨.brackets, f.message⟩
  else none

/-- How deep a document may be nested. The calls inside of each other that reading may take are a
thousand, and some of them are under way when it begins. -/
def nesting : Nat := 985

/-- The transport of the program. -/
def transport : Transport := ⟨refusal?, answerRefusal?, nesting⟩

end Url

/-- The web that gives these replies to the program. -/
def Web.ofReplies (replies : List (String × Reply)) : Web := ⟨Url.transport, replies⟩

end CodeAtlas
