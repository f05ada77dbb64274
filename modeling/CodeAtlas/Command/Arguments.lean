-- Arguments: which of them are options, and what the others are for.
import CodeAtlas.Command.Usage
import CodeAtlas.Text.Characters

namespace CodeAtlas.Command

/-! ## Words -/

/-- What an option means: how it was written in full, and the value that came with it, behind an
equals sign or not. -/
structure Meaning where
  flag : Flag
  name : String
  equals : Bool
  value : Option String
  deriving DecidableEq

/-- An argument: a plain word, the double hyphen after which all words are plain, or an option,
with its meaning if it has one. -/
inductive Word where
  | plain (text : String)
  | hyphens
  | option (text : String) (meaning : Option Meaning)
  deriving DecidableEq

/-- All ways to write some options. -/
def spellings (flags : List Flag) : List (String × Flag) :=
  flags.flatMap fun f => f.names.map fun name => (name, f)

/-- A text up to its first equals sign, and what follows the sign. -/
def splitEquals (cs : List Char) : List Char × Option (List Char) :=
  match cs.dropWhile (· ≠ '=') with
  | [] => (cs, none)
  | _ :: value => (cs.takeWhile (· ≠ '='), some value)

/-- The options that an argument may be short for. Long names may be cut off; of a short one,
the letters after it are its value. -/
def candidates (known : List (String × Flag)) (cs : List Char) : List Meaning :=
  match cs with
  | '-' :: '-' :: _ =>
    let (beginning, value) := splitEquals cs
    (known.filter fun (name, _) => beginning.isPrefixOf name.toList).map
      fun (name, flag) => ⟨flag, name, value.isSome, value.map String.ofList⟩
  | _ =>
    known.filterMap fun (name, flag) =>
      if name.toList = cs.take 2 then some ⟨flag, name, false, some (String.ofList (cs.drop 2))⟩
      else if cs.isPrefixOf name.toList then some ⟨flag, name, false, none⟩
      else none

/-- What an argument is. -/
def wordOf (known : List (String × Flag)) (argument : String) : Except UsageFault Word :=
  let cs := argument.toList
  if cs.head? ≠ some '-' then .ok (.plain argument)
  else
    match known.lookup argument with
    | some flag => .ok (.option argument (some ⟨flag, argument, false, none⟩))
    | none =>
      if cs.length = 1 then .ok (.plain argument)
      else
        let (name, value) := splitEquals cs
        match value, known.lookup (String.ofList name) with
        | some value, some flag =>
          let value := some (String.ofList value)
          .ok (.option argument (some ⟨flag, String.ofList name, true, value⟩))
        | _, _ =>
          match candidates known cs with
          | [meaning] => .ok (.option argument (some meaning))
          | [] =>
            if Decimal.isNegative cs || cs.contains ' ' then .ok (.plain argument)
            else .ok (.option argument none)
          | several => .error (.ambiguous argument (several.map Meaning.name))

/-- What the arguments are. -/
def wordsOf (known : List (String × Flag)) : List String → Except UsageFault (List Word)
  | [] => .ok []
  | argument :: rest =>
    if argument = "--" then .ok (.hyphens :: rest.map .plain)
    else do
      let word ← wordOf known argument
      let words ← wordsOf known rest
      return word :: words

/-! ## Options -/

/-- Why the reading of arguments ends early. -/
inductive Halt where
  | help
  | fault (f : UsageFault)
  deriving DecidableEq

/-- The options and values that were given, the plain words that were asked for, of which one may
be lost, and the arguments that are left over. -/
structure Given where
  flags : List (Flag × String)
  operands : List (Option String)
  extras : List String

namespace Given

def none : Given := ⟨[], [], []⟩

/-- Some options are given before the rest. -/
def withFlags (g : Given) (flags : List (Flag × String)) : Given :=
  { g with flags := flags ++ g.flags }

/-- A word is given before the rest. -/
def withOperand (g : Given) (word : Option String) : Given :=
  { g with operands := word :: g.operands }

/-- Some arguments are left over before the rest. -/
def withExtras (g : Given) (arguments : List String) : Given :=
  { g with extras := arguments ++ g.extras }

end Given

/-- What becomes of letters behind a short option that are no options themselves. Some readers of
arguments take them for a value, which the option does not need; others leave them over. -/
inductive Letters where
  | refused
  | leftOver
  deriving DecidableEq

/-- The options in a row of letters after a hyphen, of which the first is known, and the letters
that are left over. Readers that leave letters over do not take for letters what follows an equals
sign or starts with a hyphen. -/
def lettersOf (letters : Letters) (known : List (String × Flag)) (flag : Flag) (equals : Bool) :
    List Char → Except UsageFault (List Flag × List String)
  | [] => .error (.valueIgnored flag "")
  | c :: cs =>
    let leavesOver := letters = .leftOver
    if leavesOver && (equals || c = '-') then
      .error (.valueIgnored flag (String.ofList (c :: cs)))
    else
      match known.lookup (String.ofList ['-', c]), cs with
      | Option.none, _ =>
        if leavesOver then .ok ([flag], [String.ofList ('-' :: c :: cs)])
        else .error (.valueIgnored flag (String.ofList (c :: cs)))
      | some next, [] => .ok ([flag, next], [])
      | some next, '=' :: value =>
        let rest :=
          if leavesOver then lettersOf letters known next true value
          else lettersOf letters known next false ('=' :: value)
        rest.map fun (flags, extras) => (flag :: flags, extras)
      | some next, d :: ds =>
        (lettersOf letters known next false (d :: ds)).map
          fun (flags, extras) => (flag :: flags, extras)

/-- The name is a hyphen and a letter. -/
def isShort (name : String) : Bool :=
  match name.toList with
  | '-' :: c :: _ => c ≠ '-'
  | _ => false

/-- The options that an option without a value of its own stands for, and what is left over. -/
def plainFlags (letters : Letters) (known : List (String × Flag)) (m : Meaning) :
    Except UsageFault (List Flag × List String) :=
  match m.value with
  | Option.none => .ok ([m.flag], [])
  | some value =>
    if isShort m.name then lettersOf letters known m.flag m.equals value.toList
    else .error (.valueIgnored m.flag value)

/-- Gives an option that needs a value the plain word after it. -/
def attachValues : List Word → List Word
  | .option text (some m) :: .plain value :: words =>
    if m.flag.takesValue && m.value.isNone then
      .option text (some { m with value := some value }) :: attachValues words
    else .option text (some m) :: .plain value :: attachValues words
  | word :: words => word :: attachValues words
  | [] => []

/-- What stands before a word: a plain word that was asked for, a double hyphen that does not
belong to one, or neither. -/
inductive Before where
  | operand
  | hyphens
  | other
  deriving DecidableEq

/-- A plain word that was asked for. A word that is a double hyphen is taken for the mark itself
and lost, unless the mark stands before it. -/
def operandOf (before : Before) (text : String) : Option String :=
  if text = "--" && before ≠ .hyphens then Option.none else some text

/-- A value that is a double hyphen is taken for the mark, and so there is none. -/
def flagsWith (flag : Flag) (value : String) : List (Flag × String) :=
  if value = "--" then [] else [(flag, value)]

/-- Reads words, with some plain words still to come. A double hyphen next to one of them is
dropped. -/
def collect (letters : Letters) (known : List (String × Flag)) (slots : Nat) (before : Before) :
    List Word → Except Halt Given
  | [] => .ok .none
  | .plain text :: words => do
    let rest ← collect letters known (slots - 1) (if 0 < slots then .operand else .other) words
    return if 0 < slots then rest.withOperand (operandOf before text) else rest.withExtras [text]
  | .hyphens :: words => do
    let rest ← collect letters known slots (if before = .operand then .other else .hyphens) words
    return if before = .operand || (0 < slots && !words.isEmpty) then rest
      else rest.withExtras ["--"]
  | .option text Option.none :: words => do
    let rest ← collect letters known slots .other words
    return rest.withExtras [text]
  | .option _ (some m) :: words => do
    if m.flag.takesValue then
      match m.value with
      | Option.none => throw (.fault (.valueMissing m.flag))
      | some value =>
        let rest ← collect letters known slots .other words
        return rest.withFlags (flagsWith m.flag value)
    else
      let (flags, extras) ← (plainFlags letters known m).mapError .fault
      if flags.contains .help then throw .help
      let rest ← collect letters known slots .other words
      return (rest.withFlags (flags.map (·, ""))).withExtras extras

/-! ## Commands -/

/-- What is to be done. The file whose import is to be resolved may be lost. -/
inductive Task where
  | analyze (target : String) (exclude : List String) (progress : Bool)
  | imports (target : String) (exclude : List String) (progress : Bool)
  | calls (file : String)
  | resolve (specifier : String) (file : Option String)
  deriving DecidableEq

/-- A command line that is understood. -/
structure Invocation where
  verbose : Bool
  task : Task
  deriving DecidableEq

/-- How the reading of a command line ends when there is nothing to do: help is asked for, for the
program or one of its commands, or the line is not understood. -/
inductive Ending where
  | help (verb : Option Verb)
  | misuse (e : UsageError)
  deriving DecidableEq

/-- Says who halted. -/
def Halt.by (verb : Option Verb) : Halt → Ending
  | .help => .help verb
  | .fault f => .misuse ⟨verb, f⟩

/-- The task of a command with what it was given. -/
def taskOf (verb : Verb) (g : Given) : Except UsageFault Task :=
  let exclude := (g.flags.filter fun (f, _) => f = .exclude).map (·.2)
  let progress := g.flags.any fun (f, _) => f = .progress
  match verb, g.operands with
  | .analyze, [some target] => .ok (.analyze target exclude progress)
  | .imports, [some target] => .ok (.imports target exclude progress)
  | .calls, [some file] => .ok (.calls file)
  | .resolve, [some specifier, file] => .ok (.resolve specifier file)
  | _, operands =>
    .error (.operandsMissing ((verb.operands.map Operand.name).drop operands.length))

/-- Reads the arguments of a command: its task, and the arguments that are left over. -/
def readVerb (letters : Letters) (verb : Verb) (arguments : List String) :
    Except Halt (Task × List String) := do
  let known := spellings verb.flags
  let words ← (wordsOf known arguments).mapError .fault
  let given ← collect letters known verb.operands.length .other (attachValues words)
  let task ← (taskOf verb given).mapError .fault
  return (task, given.extras)

/-- What stands before the command, and the command with its arguments. -/
structure Opening where
  verbose : Bool
  extras : List String
  verb : String
  arguments : List String

def ownFlags : List (String × Flag) := spellings programFlags

/-- Reads words up to the command. The arguments are those that the words were read from. -/
def openingOf (letters : Letters) : List Word → List String → Except Halt Opening
  | .plain verb :: _, _ :: rest => .ok ⟨false, [], verb, rest⟩
  | .hyphens :: _ :: _, _ :: rest => .ok ⟨false, [], "--", rest⟩
  | .option text Option.none :: words, _ :: rest => do
    let opening ← openingOf letters words rest
    return { opening with extras := text :: opening.extras }
  | .option _ (some m) :: words, _ :: rest => do
    let (flags, extras) ← (plainFlags letters ownFlags m).mapError .fault
    if flags.contains .help then throw .help
    let opening ← openingOf letters words rest
    return { opening with
      verbose := flags.contains .verbose || opening.verbose, extras := extras ++ opening.extras }
  | _, _ => .error (.fault (.operandsMissing ["command"]))

/-- Reads a command line. -/
def read (letters : Letters) (arguments : List String) : Except Ending Invocation := do
  let words ← (wordsOf ownFlags arguments).mapError fun f => .misuse ⟨Option.none, f⟩
  let opening ← (openingOf letters words arguments).mapError (Halt.by Option.none)
  match Verb.ofName? opening.verb with
  | Option.none => throw (.misuse ⟨Option.none, .unknownVerb opening.verb⟩)
  | some verb =>
    let (task, extras) ← (readVerb letters verb opening.arguments).mapError (Halt.by (some verb))
    let unknown := opening.extras ++ extras
    if unknown.isEmpty then return ⟨opening.verbose, task⟩
    else throw (.misuse ⟨Option.none, .unrecognized unknown⟩)

end CodeAtlas.Command
