-- Sessions with a repository on the web: how the client is set up, what is asked for, and that a
-- closed session answers nothing.
import CodeAtlas.Scan.Run
import CodeAtlas.Web.Client

namespace CodeAtlas

/-! ## Setting up a client -/

/-- How a client is set up: where requests go that name no host, how many seconds an answer may
take, and what is sent along with every request. -/
structure Setup where
  baseUrl : String
  timeout : Nat
  headers : List (String × String)
  deriving DecidableEq

namespace Setup

/-- The form of answers that is asked for, and the token, unless it is empty. -/
def headersFor (token : Option String) : List (String × String) :=
  ("Accept", "application/vnd.github+json") ::
    ((token.filter (· ≠ "")).map fun t => ("Authorization", "Bearer " ++ t)).toList

/-- The setup that shows a token. What is sent along has to be ASCII. -/
def withToken (token : Option String) : Except Refusal Setup :=
  match (headersFor token).findSome? fun header => Ascii.fault? header.2.toList with
  | some f => .error ⟨.encoding, f.message⟩
  | none => .ok ⟨"https://api.github.com", 30, headersFor token⟩

end Setup

/-! ## Requests -/

namespace Repository

/-- The request that a call of the provider makes. There is none for a text that has no
reference. -/
def request? (r : Repository) : Call → Option Label
  | .list path => some (.text (r.listingUrl path))
  | .fetch reference => if reference.isVoid then none else some reference

/-- The requests that a run over the repository makes, in order. -/
def requests {α : Type} (r : Repository) (run : Run α) : List Label :=
  run.calls.filterMap r.request?

end Repository

/-- A session: the client that was set up, what was asked for so far, and whether it is closed. -/
structure Session where
  repository : Repository
  setup : Setup
  requests : List Label := []
  closed : Bool := false
  deriving DecidableEq

namespace Session

/-- Starts a session, unless the token cannot be sent. -/
def start (r : Repository) (token : Option String) : Except Refusal Session :=
  (Setup.withToken token).map fun setup => { repository := r, setup }

theorem repository_of_start {r : Repository} {token : Option String} {s : Session}
    (h : start r token = .ok s) : s.repository = r := by
  unfold start at h
  cases hsetup : Setup.withToken token with
  | error e =>
    rw [hsetup] at h
    cases h
  | ok setup =>
    rw [hsetup] at h
    cases h
    rfl

/-- Makes the request of a call. In a closed session it is counted, and fails. -/
def make (s : Session) (call : Call) : Session :=
  { s with requests := s.requests ++ (s.repository.request? call).toList }

/-- The answer, unless the session is closed and there was a request that could be made. -/
def answer {α : Type} (s : Session) (web : Web) (call : Call) (a : Except Failure α) :
    Except Failure α :=
  match s.repository.request? call with
  | none => a
  | some request =>
    if s.closed && (web.requestFault? request).isNone then .error .closed else a

def list (s : Session) (web : Web) (path : Label) : Session × Except Failure (List Entry) :=
  (s.make (.list path), s.answer web (.list path) (s.repository.list web path))

/-- Fetches a text. -/
def fetch (s : Session) (web : Web) (reference : Label) : Session × Except Failure String :=
  (s.make (.fetch reference), s.answer web (.fetch reference) (s.repository.fetch web reference))

def close (s : Session) : Session := { s with closed := true }

end Session

end CodeAtlas
