-- What the command line understands, and what is said when it is used wrongly or asked for help.
import CodeAtlas.Text.Quoted

namespace CodeAtlas.Command

/-- An option of the command line. -/
inductive Flag where
  | help
  | verbose
  | exclude
  | progress
  deriving DecidableEq

namespace Flag

/-- How an option may be written. -/
def names : Flag → List String
  | help => ["-h", "--help"]
  | verbose => ["-v", "--verbose"]
  | exclude => ["--exclude"]
  | progress => ["--progress"]

/-- What the value of an option is called, if the option needs one. -/
def valueName? : Flag → Option String
  | exclude => some "PATTERN"
  | _ => none

def takesValue (f : Flag) : Bool := f.valueName?.isSome

/-- How an option is called in a message. -/
def title (f : Flag) : String := String.intercalate "/" f.names

def about : Flag → String
  | help => "show this help message and exit"
  | verbose => "Enable debug logging"
  | exclude => "Extra exclusion pattern (gitignore syntax, repeatable)"
  | progress => "Print each file name to stderr"

/-- One way to write an option, with a place for its value. -/
def spelled (f : Flag) (name : String) : String :=
  match f.valueName? with
  | some value => name ++ " " ++ value
  | none => name

end Flag

/-- A word that a command must be told, and what it is for. -/
structure Operand where
  name : String
  about : String := ""

inductive Verb where
  | analyze
  | imports
  | calls
  | resolve
  deriving DecidableEq

namespace Verb

def all : List Verb := [analyze, imports, calls, resolve]

def name : Verb → String
  | analyze => "analyze"
  | imports => "imports"
  | calls => "calls"
  | resolve => "resolve"

/-- What a command does. -/
def about : Verb → String
  | analyze => "Run a full analysis"
  | imports => "Print the import graph"
  | calls => "Print call edges of one file"
  | resolve => "Resolve a relative import specifier"

/-- The command that is called so. -/
def ofName? (s : String) : Option Verb := all.find? (·.name = s)

/-- The options that a command understands. -/
def flags : Verb → List Flag
  | analyze | imports => [.help, .exclude, .progress]
  | calls | resolve => [.help]

/-- What a command must be told, in order. -/
def operands : Verb → List Operand
  | analyze | imports => [⟨"target", "Local directory or GitHub URL"⟩]
  | calls => [⟨"file", ""⟩]
  | resolve => [⟨"specifier", ""⟩, ⟨"file", "Project-relative path of the importing file"⟩]

end Verb

def programName : String := "tsgraph"

/-- Why a command line is not understood. -/
inductive UsageFault where
  | ambiguous (argument : String) (names : List String)
  | valueIgnored (flag : Flag) (value : String)
  | valueMissing (flag : Flag)
  | operandsMissing (names : List String)
  | unknownVerb (name : String)
  | unrecognized (arguments : List String)
  deriving DecidableEq

/-- What is said of a command line that is not understood. -/
def UsageFault.message : UsageFault → String
  | .ambiguous argument names =>
    "ambiguous option: " ++ argument ++ " could match " ++ String.intercalate ", " names
  | .valueIgnored flag value =>
    "argument " ++ flag.title ++ ": ignored explicit argument " ++ Quoted.quote value
  | .valueMissing flag => "argument " ++ flag.title ++ ": expected one argument"
  | .operandsMissing names =>
    "the following arguments are required: " ++ String.intercalate ", " names
  | .unknownVerb name =>
    "argument command: invalid choice: " ++ Quoted.quote name ++ " (choose from "
      ++ String.intercalate ", " (Verb.all.map fun v => Quoted.quote v.name) ++ ")"
  | .unrecognized arguments => "unrecognized arguments: " ++ String.intercalate " " arguments

/-- A command line that is not understood: by the program, or by one of its commands. -/
structure UsageError where
  verb : Option Verb
  fault : UsageFault
  deriving DecidableEq

/-- What is called with the arguments: the program, or one of its commands. -/
def callName : Option Verb → String
  | none => programName
  | some verb => programName ++ " " ++ verb.name

/-- The line that says so. -/
def UsageError.line (e : UsageError) : String :=
  callName e.verb ++ ": error: " ++ e.fault.message

/-! ## Help -/

/-- The options of the program itself. -/
def programFlags : List Flag := [.help, .verbose]

def flagsOf : Option Verb → List Flag
  | none => programFlags
  | some verb => verb.flags

/-- All commands to choose from. -/
def choices : String :=
  "\x7b" ++ String.intercalate "," (Verb.all.map Verb.name) ++ "\x7d"

/-- How the program or a command is called, on one line. -/
def usage (verb : Option Verb) : String :=
  let flags := (flagsOf verb).map fun f => "[" ++ f.spelled (f.names.headD "") ++ "]"
  let words :=
    match verb with
    | none => [choices, "..."]
    | some verb => verb.operands.map Operand.name
  String.intercalate " " (["usage:", callName verb] ++ flags ++ words)

/-- A line of help: how far it is moved to the right, something that can be given, and what that is
for, if there is anything to say. -/
structure HelpRow where
  indent : Nat
  what : String
  about : String

namespace HelpRow

/-- The row of something that can be given, moved as most of them are. -/
def ofOperand (o : Operand) : HelpRow := ⟨2, o.name, o.about⟩

def ofFlag (f : Flag) : HelpRow :=
  ⟨2, String.intercalate ", " (f.names.map f.spelled), f.about⟩

def ofVerb (verb : Verb) : HelpRow := ⟨4, verb.name, verb.about⟩

/-- Where the explanations start: two blanks behind the longest row, but not too far right. -/
def column (rows : List HelpRow) : Nat :=
  min 24 (rows.foldl (fun n r => max n (r.indent + r.what.length)) 0 + 2)

/-- The row as a line whose explanation starts at a column. -/
def line (column : Nat) (r : HelpRow) : String :=
  let front := "".pushn ' ' r.indent ++ r.what
  if r.about.isEmpty then front else front.pushn ' ' (column - front.length) ++ r.about

end HelpRow

/-- What must be given to the program or a command. -/
def positionalRows : Option Verb → List HelpRow
  | none => ⟨2, choices, ""⟩ :: Verb.all.map .ofVerb
  | some verb => verb.operands.map .ofOperand

/-- What is printed for those who ask how the program or a command is called. -/
def help (verb : Option Verb) : String :=
  let positionals := positionalRows verb
  let options := (flagsOf verb).map HelpRow.ofFlag
  let column := HelpRow.column (positionals ++ options)
  let description :=
    match verb with
    | none => ["Import and call graphs for JavaScript/TypeScript projects", ""]
    | some _ => []
  String.join <| List.map (· ++ "\n") <|
    [usage verb, ""] ++ description ++ ["positional arguments:"]
      ++ positionals.map (HelpRow.line column) ++ ["", "options:"]
      ++ options.map (HelpRow.line column)

end CodeAtlas.Command
