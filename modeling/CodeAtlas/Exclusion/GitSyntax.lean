-- Patterns in the syntax of git: how the parts of a pattern match the characters of a path, what a
-- line stands for, and the library with which the program runs. What is said of exclusion elsewhere
-- holds for any library that keeps to the same laws.
import CodeAtlas.Exclusion.Rules
import CodeAtlas.Text.Characters

namespace CodeAtlas.Exclusion

/-! ## Matching -/

/-- What one character must be. -/
inductive CharTest where
  | exactly (c : Char)
  | notSlash
  | within (negated : Bool) (ranges : List (Char × Char))
  deriving DecidableEq

/-- The character passes the test. -/
def CharTest.holds : CharTest → Char → Bool
  | exactly d, c => c = d
  | notSlash, c => c ≠ '/'
  | within negated ranges, c => (ranges.any fun (low, high) => low ≤ c && c ≤ high) != negated

/-- A part of a pattern. -/
inductive Atom where
  /-- One character. -/
  | one (test : CharTest)
  /-- Any characters but slashes, or none. -/
  | many
  /-- Any folders at the front, each with its slash, or none. -/
  | outerFolders
  /-- A slash with any folders behind it, or nothing. -/
  | innerFolders
  /-- The end of the name, or the slash at the end of a folder. -/
  | finish
  deriving DecidableEq

/-- What is left after dropping any number of characters that satisfy `p`. -/
def dropSome (p : Char → Bool) : List Char → List (List Char)
  | [] => [[]]
  | c :: cs => (c :: cs) :: if p c then dropSome p cs else []

/-- What is left after each slash of the first line. -/
def afterSlashes : List Char → List (List Char)
  | [] => []
  | c :: cs => (if c = '/' then [cs] else []) ++ if c = '\n' then [] else afterSlashes cs

/-- What can be left of a text after the part is matched at its front. -/
def Atom.rests : Atom → List Char → List (List Char)
  | one test, c :: cs => if test.holds c then [cs] else []
  | one _, [] => []
  | many, cs => dropSome (· ≠ '/') cs
  | outerFolders, cs =>
    cs :: match cs with
      | c :: rest => if c = '\n' then [] else afterSlashes rest
      | [] => []
  | innerFolders, cs =>
    cs :: match cs with
      | '/' :: c :: rest => if c = '\n' then [] else dropSome (· ≠ '\n') rest
      | _ => []
  | finish, cs =>
    match cs with
    | '/' :: rest => [rest]
    | [] | ['\n'] => [cs]
    | _ => []

/-- The parts match the front of a text, one after the other. -/
def matchFront : List Atom → List Char → Bool
  | [], _ => true
  | a :: as, cs => (a.rests cs).any (matchFront as)

/-! ## Reading globs -/

/-- What is wrong with a glob: a bracket that is not closed, or a backslash with nothing to
take literally. -/
inductive GlobFlaw where
  | openBracket
  | loneBackslash
  deriving DecidableEq

/-- The ranges between brackets. A hyphen with a character on both sides makes a range. -/
def ranges : List Char → List (Char × Char)
  | low :: '-' :: high :: rest => (low, high) :: ranges rest
  | c :: rest => (c, c) :: ranges rest
  | [] => []

/-- The content of a bracket and what follows it. A closing bracket that comes first is part of
the content. -/
def bracketContent? (cs : List Char) : Option (List Char × List Char) :=
  let (first, more) : List Char × List Char :=
    match cs with
    | ']' :: rest => ([']'], rest)
    | _ => ([], cs)
  match more.dropWhile (· ≠ ']') with
  | [] => none
  | _ :: rest => some (first ++ more.takeWhile (· ≠ ']'), rest)

/-- The test that a bracket stands for, and what follows the bracket. -/
def bracket? (cs : List Char) : Option (CharTest × List Char) :=
  let (negated, content) : Bool × List Char :=
    match cs with
    | '!' :: rest => (true, rest)
    | '^' :: rest => (true, rest)
    | _ => (false, cs)
  (bracketContent? content).map fun (inner, rest) => (.within negated (ranges inner), rest)

theorem length_bracketContent? {cs inner rest : List Char}
    (h : bracketContent? cs = some (inner, rest)) : rest.length < cs.length := by
  unfold bracketContent? at h
  split at h
  rename_i more hm
  have hmore : more.length ≤ cs.length := by
    split at hm <;> simp only [Prod.mk.injEq] at hm <;> obtain ⟨-, rfl⟩ := hm <;> simp
  split at h
  · cases h
  · rename_i c tail hd
    simp only [Option.some.injEq, Prod.mk.injEq] at h
    obtain ⟨-, rfl⟩ := h
    have hle := (List.dropWhile_suffix (l := more) (· ≠ ']')).length_le
    rw [hd] at hle
    simp only [List.length_cons] at hle
    omega

theorem length_bracket? {cs rest : List Char} {test : CharTest}
    (h : bracket? cs = some (test, rest)) : rest.length < cs.length := by
  unfold bracket? at h
  split at h
  rename_i content hc
  obtain ⟨⟨inner, tail⟩, ht, he⟩ := Option.map_eq_some_iff.1 h
  have hle : content.length ≤ cs.length := by
    split at hc <;> simp only [Prod.mk.injEq] at hc <;> obtain ⟨-, rfl⟩ := hc <;> simp
  have hlt := length_bracketContent? ht
  simp only [Prod.mk.injEq] at he
  obtain ⟨-, rfl⟩ := he
  omega

/-- The parts of a glob. -/
def glob : List Char → Except GlobFlaw (List Atom)
  | [] => .ok []
  | ['\\'] => .error .loneBackslash
  | '\\' :: c :: cs => (glob cs).map (.one (.exactly c) :: ·)
  | '*' :: cs => (glob cs).map (.many :: ·)
  | '?' :: cs => (glob cs).map (.one .notSlash :: ·)
  | '[' :: cs =>
    match h : bracket? cs with
    | none => .error .openBracket
    | some (test, rest) =>
      have := length_bracket? h
      (glob rest).map (.one test :: ·)
  | c :: cs => (glob cs).map (.one (.exactly c) :: ·)
termination_by cs => cs.length
decreasing_by all_goals simp only [List.length_cons]; omega

/-! ## Shapes -/

/-- Which names a pattern matches: all that are not empty, all of folders, or those whose front
the parts match. -/
inductive Shape where
  | anyName
  | anyFolder
  | parts (atoms : List Atom)
  deriving DecidableEq

/-- The pattern matches the name. The name of a folder ends in a slash. -/
def Shape.holds : Shape → List Char → Bool
  | anyName, cs => cs.any (· ≠ '\n')
  | anyFolder, cs => cs.contains '/'
  | parts atoms, cs => matchFront atoms cs

/-! ## The segments of a pattern -/

/-- The segment that stands for any folders. -/
def anyFolders : List Char := ['*', '*']

/-- Ties the first segment to the top if the pattern starts with a slash. A pattern with only one
segment is meant at every level. -/
def anchor : List (List Char) → List (List Char)
  | [] :: more => more
  | [s] => if s = anyFolders then [s] else [anyFolders, s]
  | [s, []] => if s = anyFolders then [s, []] else [anyFolders, s, []]
  | segments => segments

/-- A slash at the end stands for all that is in the folder. -/
def openEnd : List (List Char) → List (List Char)
  | [] => []
  | [s] => if s.isEmpty then [anyFolders] else [s]
  | s :: t :: rest => s :: openEnd (t :: rest)

/-- Any folders twice are any folders. -/
def collapse : List (List Char) → List (List Char)
  | [] => []
  | s :: rest =>
    match collapse rest with
    | t :: more => if s = anyFolders && t = anyFolders then t :: more else s :: t :: more
    | [] => [s]

/-- The parts of a segment. A star by itself stands for a whole name. -/
def segmentAtoms (s : List Char) : Except GlobFlaw (List Atom) :=
  if s = ['*'] then .ok [.one .notSlash, .many] else glob s

/-- The parts of the segments after the first. -/
def laterAtoms : List (List Char) → Except GlobFlaw (List Atom)
  | [] => .ok []
  | s :: rest =>
    if s = anyFolders then
      if rest.isEmpty then .ok [.one (.exactly '/')]
      else (laterAtoms rest).map (.innerFolders :: ·)
    else do
      let atoms ← segmentAtoms s
      let more ← laterAtoms rest
      return .one (.exactly '/') :: atoms ++ (if rest.isEmpty then [.finish] else []) ++ more

/-- The parts of a list of segments whose first has no slash in front of it. -/
def firstAtoms : List (List Char) → Except GlobFlaw (List Atom)
  | [] => .ok []
  | s :: rest => do
    let atoms ← segmentAtoms s
    let more ← laterAtoms rest
    return atoms ++ (if rest.isEmpty then [.finish] else []) ++ more

/-- The parts of a pattern. -/
def patternAtoms : List (List Char) → Except GlobFlaw (List Atom)
  | [] => .ok []
  | s :: rest =>
    if s = anyFolders then (firstAtoms rest).map (.outerFolders :: ·) else firstAtoms (s :: rest)

/-- The shape of a pattern that is made of these segments. -/
def shapeOf (isFolderPattern : Bool) (segments : List (List Char)) : Except GlobFlaw Shape :=
  if segments = [anyFolders] then .ok (if isFolderPattern then .anyFolder else .anyName)
  else if segments = [anyFolders, ['*']] then .ok .anyName
  else if segments = [anyFolders, ['*'], anyFolders] then .ok .anyFolder
  else (patternAtoms segments).map .parts

/-! ## Lines -/

/-- Drops the blanks at the end, unless the last one is to be taken literally. -/
def trimLine (line : List Char) : List Char :=
  if ['\\', ' '].isSuffixOf line then line else Blank.trimEnd line

/-- The first range between brackets that runs backwards. -/
def reversedRange? : Shape → Option (Char × Char)
  | .parts atoms =>
    atoms.findSome? fun
      | .one (.within _ ranges) => ranges.find? fun (low, high) => high < low
      | _ => none
  | _ => none

/-- The pattern of a line. Blank lines, comments and a slash by itself have none, nor has a pattern
with a bracket that is not closed. -/
def shapeOfLine (line : String) : Except PatternError (Option (Bool × Shape)) :=
  let trimmed := trimLine line.toList
  if trimmed.isEmpty || trimmed.head? = some '#' || trimmed = ['/'] then .ok none
  else
    let negated := trimmed.head? = some '!'
    let segments := Segments.split '/' (if negated then trimmed.drop 1 else trimmed)
    let anchored := anchor segments
    if anchored.isEmpty then .error (.invalid line)
    else
      match shapeOf (segments.getLast? = some []) (collapse (openEnd anchored)) with
      | .error .openBracket => .ok none
      | .error .loneBackslash => .error (.invalid line)
      | .ok shape =>
        match reversedRange? shape with
        | some (low, high) => .error (.reversedRange low high)
        | none => .ok (some (!negated, shape))

/-! ## The library -/

/-- A path as patterns see it. One slash at the front, or one step that stays in the folder, is
dropped. -/
def subject (path : String) : List Char :=
  match path.toList with
  | '/' :: rest => rest
  | '.' :: '/' :: rest => rest
  | cs => cs

/-- The rule of a line. -/
def gitRule (line : String) : Except PatternError (Option Rule) :=
  (shapeOfLine line).map fun found =>
    found.map fun (excludes, shape) => ⟨excludes, fun path => shape.holds (subject path)⟩

/-- Patterns in the syntax of git. Lines are read one by one, and the last that matches decides. -/
def gitSyntax : Library where
  ruleOf := gitRule
  compile lines := (rulesOf gitRule lines).map fun rules => ⟨verdict rules⟩

end CodeAtlas.Exclusion
