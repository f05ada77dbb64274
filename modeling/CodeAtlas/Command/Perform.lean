-- Carrying out commands: what they can look at, what is printed, what is said on the way, and what
-- is asked of the web.
import CodeAtlas.Command.Arguments
import CodeAtlas.Exclusion.Rules
import CodeAtlas.Json.Value
import CodeAtlas.Scan.Analysis
import CodeAtlas.Web.Session

namespace CodeAtlas.Command

/-! ## What a command can look at -/

/-- What a command can look at and make use of: the disk, the web with the token that is shown to
it, a reader of source texts, and a library for patterns. New nodes are identified by their path,
and letters in the arguments are taken as their reader takes them. -/
structure World where
  disk : Disk
  web : Web
  token : Option String
  grammar : Grammar
  patterns : Exclusion.Library
  identify : String → String
  letters : Letters

/-- The target is an address on the web. -/
def isWebTarget (target : String) : Bool :=
  ["http://", "https://"].any fun start => start.toList.isPrefixOf target.toList

/-- Where a project stands: in a folder, or in a repository from a path on. -/
inductive Place where
  | folder (root : List String)
  | repository (r : Repository) (start : String)
  deriving DecidableEq

/-- Why a target is no place. -/
inductive PlaceError where
  | address (e : BadAddress)
  | noFolder (target : String)
  | disk (e : DiskError)
  deriving DecidableEq

/-- How it is said that a target is no place. -/
def PlaceError.message : PlaceError → String
  | .address e => e.message
  | .noFolder target => (Failure.unavailable (.text target) .notFolder).message
  | .disk e => e.message

def placeOf (disk : Disk) (target : String) : Except PlaceError Place :=
  if isWebTarget target then
    match Address.parse target with
    | .error e => .error (.address e)
    | .ok a => .ok (.repository ⟨a.owner, a.repo⟩ a.path)
  else
    match disk.folder? (Path.components target) with
    | .error e => .error (.disk e)
    | .ok none => .error (.noFolder target)
    | .ok (some _) => .ok (.folder (Path.components target))

/-- The folder whose ignore file counts for a target. -/
def ignoreFolder? (target : String) : Option (List String) :=
  if isWebTarget target || target = "" then none else some (Path.components target)

/-! ## Carrying out -/

/-- Why a command cannot be carried out. -/
inductive CommandError where
  | rules (e : Exclusion.LoadError)
  | place (e : PlaceError)
  | failure (f : Failure)
  | source (e : ReadError)
  | specifier (e : Specifier.NotRelative)
  | fileLost
  | disk (e : DiskError)
  | text (f : Utf8.Fault)
  deriving DecidableEq

namespace CommandError

def message : CommandError → String
  | rules e => e.message
  | place e => e.message
  | failure f => f.message
  | source e => e.message
  | specifier e => e.message
  | fileLost => "no file is given"
  | disk e => e.message
  | text f => f.message

/-- The command takes the error in hand and reports it. Addresses that cannot be asked for, answers
of the web that are not what a listing must be, documents that are nested too deeply, patterns with
a range that runs backwards and a lost file are not expected and end the program. -/
def isExpected : CommandError → Bool
  | failure (.document (.content f)) => f.flaw ≠ .tooDeep
  | failure (.refused r) => r.kind ≠ .address
  | failure (.unavailable _ _) | failure (.disk _) | failure (.document _)
  | failure (.surrogates _) => true
  | failure _ => false
  | rules (.pattern (.reversedRange _ _)) => false
  | fileLost => false
  | _ => true

end CommandError

/-- What a command does with its client for the web. -/
inductive ClientAction where
  | opened
  | requested (request : Label)
  | closed
  deriving DecidableEq

/-- What a command prints when it succeeds. -/
inductive Output where
  | plain (text : String)
  | document (j : Json)

def Output.text : Output → String
  | plain s => s ++ "\n"
  | document j => j.pretty ++ "\n"

/-- Something that was carried out: what happened, what was done with the client, and what came
out. -/
structure Performance (α : Type) where
  events : List Event
  client : List ClientAction
  result : Except CommandError α

namespace Performance

variable {α β : Type}

/-- Nothing happened but that it came out so. -/
def plain (result : Except CommandError α) : Performance α := ⟨[], [], result⟩

/-- Changes what came out. -/
def map (f : α → β) (p : Performance α) : Performance β := ⟨p.events, p.client, p.result.map f⟩

/-- Goes on with what came out. What cannot be carried out ends there. -/
def next (p : Performance α) (f : α → Performance β) : Performance β :=
  match p.result with
  | .ok a => ⟨p.events ++ (f a).events, p.client ++ (f a).client, (f a).result⟩
  | .error e => ⟨p.events, p.client, .error e⟩

instance : Monad Performance where
  pure a := plain (.ok a)
  bind := next

/-- Does something with the client at the end, however it came out. -/
def ensuring (p : Performance α) (last : List ClientAction) : Performance α :=
  { p with client := p.client ++ last }

end Performance

/-- Access to a project: who is asked for it, from which path on, and the session that was started
for it, if it stands on the web. -/
structure Access where
  provider : Provider
  start : Label
  session : Option Session

namespace Access

/-- Opens the access to a place. Only a repository needs a client. -/
def gain (w : World) : Place → Performance Access
  | .folder root => .plain (.ok ⟨.ofDisk w.disk root, .text "", none⟩)
  | .repository r start =>
    match Session.start r w.token with
    | .error e => .plain (.error (.failure (.refused e)))
    | .ok session => ⟨[], [.opened], .ok ⟨.ofRepository w.web r, .text start, some session⟩⟩

/-- A run over the access. What it asks a repository for, the client requests. -/
def follow {α : Type} (a : Access) (run : Run α) : Performance α :=
  let requests := (a.session.map fun s => s.repository.requests run).getD []
  ⟨run.events, requests.map .requested, run.result.mapError .failure⟩

/-- The analysis of what there is access to, if there are settings for it. -/
def analysis (a : Access) (settings : Except Exclusion.LoadError Settings) :
    Performance Analysis :=
  match settings with
  | .error e => .plain (.error (.rules e))
  | .ok s => a.follow (Analysis.run s a.provider a.start)

/-- What is done to give the access up: the client is closed, if there is one. -/
def givingUp (a : Access) : List ClientAction := if a.session.isSome then [.closed] else []

end Access

/-- How a command scans: by some rules, with nothing else said. -/
def World.settings (w : World) (rules : Exclusion.Rules) : Except Exclusion.LoadError Settings :=
  { rules := some rules : Options }.settings w.patterns w.grammar w.identify

/-- Analyses the project of a target. The rules are read before the target is looked at, and the
access is given up however the analysis ends. -/
def analysis (w : World) (target : String) (exclude : List String) : Performance Analysis := do
  let rules ←
    .plain ((Exclusion.load w.patterns w.disk (ignoreFolder? target) exclude).mapError .rules)
  let place ← .plain ((placeOf w.disk target).mapError .place)
  let access ← Access.gain w place
  (access.analysis (w.settings rules)).ensuring access.givingUp

def sourceIn (w : World) (file : String) : Except CommandError Source := do
  let path := Path.components file
  let bytes ← (w.disk.read path).mapError .disk
  let cs ← (Utf8.decode bytes).mapError .text
  (Source.readAt w.grammar (Path.render path) (String.ofList (Lines.unify cs))).mapError .source

/-- What is noted when the source in a file cannot be read. -/
def sourceNotes : Except CommandError Source → List Note
  | .error (.source (.fault path f)) => [.faultFound path f]
  | _ => []

def fileCalls (w : World) (file : String) : Performance (List CallEdge) :=
  let source := sourceIn w file
  ⟨(sourceNotes source).map .noted, [], source.map Source.callEdges⟩

/-- The imports of every file in a project that was analysed. -/
def importsOf (a : Analysis) : Except CommandError Json :=
  match a.project.adjacencyFault? with
  | some f => .error (.failure (.label f))
  | none => .ok (adjacencyJson a.project.adjacency)

/-- The path that a specifier points at. A package is told before a lost file is missed. -/
def resolved (specifier : String) : Option String → Except CommandError String
  | some file => (Specifier.resolve specifier file).mapError .specifier
  | none =>
    if Specifier.isRelative specifier then .error .fileLost else .error (.specifier ⟨specifier⟩)

/-- Carries out a task. -/
def perform (w : World) : Task → Performance Output
  | .analyze target exclude _ => (analysis w target exclude).map fun a => .document a.toJson
  | .imports target exclude _ => do
    let a ← analysis w target exclude
    .plain ((importsOf a).map .document)
  | .calls file => (fileCalls w file).map fun edges => .document (.list (edges.map CallEdge.toJson))
  | .resolve specifier file => (Performance.plain (resolved specifier file)).map .plain

/-- The task asks to be told of progress. -/
def Task.progress : Task → Bool
  | .analyze _ _ progress | .imports _ _ progress => progress
  | .calls _ | .resolve _ _ => false

/-- The line that is written for an event, if one is wanted. -/
def eventLine? (verbose progress : Bool) : Event → Option String
  | .asked _ => none
  | .reached name => if progress then some name.shown else none
  | .noted note => if verbose || note.isWarning then some note.line else none

/-- How the program ends: with a code, or by an error that it does not expect. -/
inductive Exit where
  | code (n : Nat)
  | escaped (e : CommandError)
  deriving DecidableEq

/-- All that can be seen of a program that has ended. -/
structure Outcome where
  exit : Exit
  out : String
  err : List String
  client : List ClientAction

/-- Carries out a command line that is understood. -/
def carryOut (w : World) (i : Invocation) : Outcome :=
  let p := perform w i.task
  let lines := p.events.filterMap (eventLine? i.verbose i.task.progress)
  match p.result with
  | .ok output => ⟨.code 0, output.text, lines, p.client⟩
  | .error e =>
    if e.isExpected then ⟨.code 1, "", lines ++ ["Error: " ++ e.message], p.client⟩
    else ⟨.escaped e, "", lines, p.client⟩

/-- Runs the program with some arguments. -/
def run (w : World) (arguments : List String) : Outcome :=
  match read w.letters arguments with
  | .ok invocation => carryOut w invocation
  | .error (.help verb) => ⟨.code 0, help verb, [], []⟩
  | .error (.misuse e) => ⟨.code 2, "", [usage e.verb, e.line], []⟩

end CodeAtlas.Command
