-- Lines that hold names in full. By the syntax of git a name is meant at every level, and only for
-- folders if it ends in a slash. On the path of an entry there is only its own name, so what is
-- said last of the name decides.
import CodeAtlas.Proofs.Exclusion.Rules
import CodeAtlas.Proofs.Path

namespace CodeAtlas

namespace Exclusion

/-! ## Names in full -/

/-- The characters that end a line or mean something else in a pattern. -/
def signs : List Char := ['\n', '/', '*', '?', '[', '\\']

/-- A name that a line can hold in full: no character of it ends the line or means something else in
a pattern, no blank at an end of it can be dropped, and it is not taken for a comment or a
negation. -/
structure LiteralName where
  chars : List Char
  ne_nil : chars ≠ []
  plain : ∀ c ∈ chars, c ∉ signs
  ending : ∀ c ∈ chars.getLast?, Blank.isBlank c = false
  opening : ∀ c ∈ chars.head?, c ≠ '#' ∧ c ≠ '!' ∧ Blank.isBlank c = false

/-- The slash after the name of a folder. -/
def folderSlash (isFolder : Bool) : List Char := if isFolder then ['/'] else []

namespace LiteralName

variable (n : LiteralName) (foldersOnly : Bool)

/-- The name as a text. -/
def text : String := String.ofList n.chars

/-- The characters of a line with the name. -/
def written : List Char := n.chars ++ folderSlash foldersOnly

/-- The name is on the path: from its front or a slash on, and up to its end or a slash. If the name
is meant for folders only, there has to be a slash after it. -/
def IsOn (path : List Char) : Prop :=
  ∃ before after, path = before ++ n.chars ++ after ∧ (before = [] ∨ ['/'] <:+ before) ∧
    (['/'] <+: after ∨ after = [] ∧ foldersOnly = false)

theorem slash_notMem : '/' ∉ n.chars := fun hmem => n.plain '/' hmem (by decide)

theorem head?_written :
    ∃ c, (n.written foldersOnly).head? = some c ∧ c ≠ '#' ∧ c ≠ '!' ∧ c ≠ '/' := by
  obtain ⟨c, rest, hcs⟩ := List.exists_cons_of_ne_nil n.ne_nil
  obtain ⟨hcomment, hmark, -⟩ := n.opening c (by rw [hcs]; rfl)
  refine ⟨c, by simp [written, hcs], hcomment, hmark, ?_⟩
  rintro rfl
  exact n.slash_notMem (by simp [hcs])

end LiteralName

/-- A line that is blank, a comment, or a name in full. The name may be negated, and it may be
meant for folders only. -/
inductive PlainLine where
  | blank (text : String) (h : ∀ c ∈ text.toList, Blank.isBlank c = true)
  | comment (text : String)
  | entry (negated foldersOnly : Bool) (name : LiteralName)

namespace PlainLine

/-- How the line is written. -/
def text : PlainLine → String
  | blank text _ => text
  | comment text => "#" ++ text
  | entry negated foldersOnly name =>
    (if negated then "!" else "") ++ name.text ++ if foldersOnly then "/" else ""

/-- The line takes names back in. -/
def isNegated : PlainLine → Bool
  | entry negated _ _ => negated
  | _ => false

/-- The line is about what has this name. -/
def Concerns (name : String) (isFolder : Bool) : PlainLine → Prop
  | entry _ foldersOnly n => n.text = name ∧ (foldersOnly = true → isFolder = true)
  | _ => False

instance (name : String) (isFolder : Bool) :
    (line : PlainLine) → Decidable (Concerns name isFolder line)
  | entry _ _ _ => inferInstanceAs (Decidable (_ ∧ _))
  | blank _ _ => isFalse id
  | comment _ => isFalse id

theorem toList_entry (negated foldersOnly : Bool) (n : LiteralName) :
    (entry negated foldersOnly n).text.toList =
      (if negated then ['!'] else []) ++ n.written foldersOnly := by
  unfold text LiteralName.written LiteralName.text folderSlash
  cases negated <;> cases foldersOnly <;> simp

theorem isNegation_entry (negated foldersOnly : Bool) (n : LiteralName) :
    isNegation (entry negated foldersOnly n).text = negated := by
  obtain ⟨c, hhead, -, hmark, -⟩ := n.head?_written foldersOnly
  unfold isNegation
  rw [toList_entry]
  cases negated <;> simp [hhead, hmark]

end PlainLine

/-! ## What the syntax of git says of such lines -/

/-- A path without line feeds that starts neither at the top nor with a step that stays in the
folder. -/
def IsPlainPath (path : String) : Prop :=
  '\n' ∉ path.toList ∧ ¬ ['/'] <+: path.toList ∧ ¬ ['.', '/'] <+: path.toList

/-- The library reads lines as the syntax of git has them. Blank lines and comments say nothing, and
a name in full is meant at every level. -/
structure Library.ReadsGit (L : Library) : Prop extends L.Lawful where
  blank : ∀ text : String, (∀ c ∈ text.toList, Blank.isBlank c = true) → L.ruleOf text = .ok none
  comment : ∀ text : String, L.ruleOf ("#" ++ text) = .ok none
  entry : ∀ negated foldersOnly n, ∃ rule,
    L.ruleOf (PlainLine.entry negated foldersOnly n).text = .ok (some rule) ∧
      ∀ path, IsPlainPath path → (rule.holds path = true ↔ n.IsOn foldersOnly path.toList)

/-! ## Names of entries -/

section Names

variable {name : String} {isFolder : Bool}

theorem toList_entryPath :
    (entryPath name isFolder).toList = name.toList ++ folderSlash isFolder := by
  unfold entryPath folderSlash
  cases isFolder <;> simp

theorem isPlainPath_entryPath (hname : Path.IsComponent name) (hfeed : '\n' ∉ name.toList) :
    IsPlainPath (entryPath name isFolder) := by
  have hkept := Path.isKept_of_isComponent hname
  have hslash := hname.2.2
  simp only [Bool.and_eq_true, decide_eq_true_eq] at hkept
  unfold IsPlainPath
  rw [toList_entryPath]
  generalize name.toList = cs at hkept hslash hfeed
  obtain ⟨c, cs, rfl⟩ := List.exists_cons_of_ne_nil hkept.1
  simp only [List.mem_cons, not_or] at hslash hfeed
  refine ⟨?_, ?_, ?_⟩
  · cases isFolder <;> simp [folderSlash, hfeed]
  · simp [hslash]
  · -- a dot by itself is no name, and no slash follows a dot within a name
    cases cs with
    | nil =>
      rintro ⟨rest, heq⟩
      cases (List.cons.inj heq).1
      exact hkept.2 rfl
    | cons d ds => simp_all

theorem slash_notMem_dropLast (hslash : '/' ∉ name.toList) (isFolder : Bool) :
    '/' ∉ (name.toList ++ folderSlash isFolder).dropLast := by
  cases isFolder with
  | true => simpa [folderSlash] using hslash
  | false =>
    intro hmem
    exact hslash (by simpa [folderSlash] using List.dropLast_subset _ hmem)

/-- On the path of an entry there is no name but its own, neither a longer nor a shorter one. -/
theorem LiteralName.isOn_entryPath_iff (n : LiteralName) (hslash : '/' ∉ name.toList)
    (foldersOnly : Bool) :
    n.IsOn foldersOnly (entryPath name isFolder).toList ↔
      n.text = name ∧ (foldersOnly = true → isFolder = true) := by
  have hentry : Segments.Cut (name.toList ++ folderSlash isFolder) name.toList
      (folderSlash isFolder) := by
    refine ⟨rfl, hslash, ?_⟩
    cases isFolder <;> simp [folderSlash]
  rw [toList_entryPath, text, ← String.toList_inj, String.toList_ofList]
  constructor
  · rintro ⟨before, after, hpath, hbefore, hafter⟩
    rcases hbefore with rfl | ⟨outer, rfl⟩
    · -- both cut the path at its first slash, so the name is all of it
      obtain ⟨hsame, rfl⟩ := Segments.Cut.unique
        ⟨hpath, n.slash_notMem, by
          rcases hafter with ⟨more, rfl⟩ | ⟨rfl, -⟩
          · exact Or.inr ⟨more, rfl⟩
          · exact Or.inl rfl⟩ hentry
      refine ⟨hsame, ?_⟩
      rintro rfl
      cases isFolder with
      | true => rfl
      | false => simp [folderSlash] at hafter
    · -- nothing comes after the slash at the end of a folder
      refine absurd ?_ (slash_notMem_dropLast hslash isFolder)
      rw [hpath, List.append_assoc, List.dropLast_append_of_ne_nil (by simp [n.ne_nil])]
      simp
  · rintro ⟨hsame, hfolder⟩
    refine ⟨[], folderSlash isFolder, by rw [hsame]; rfl, Or.inl rfl, ?_⟩
    cases isFolder with
    | true => simp [folderSlash]
    | false => simpa [folderSlash] using hfolder

end Names

/-! ## The library that runs: blanks at the end -/

end Exclusion

namespace Blank

theorem trimEnd_of_getLast? {cs : List Char} (h : ∀ c ∈ cs.getLast?, isBlank c = false) :
    trimEnd cs = cs := by
  induction cs with
  | nil => rfl
  | cons c cs ih =>
    unfold trimEnd
    cases cs with
    | nil => simp [trimEnd, h c (by simp)]
    | cons d ds =>
      rw [ih fun e he => h e (by rwa [List.getLast?_cons_cons])]

theorem trimEnd_of_blank {cs : List Char} (h : ∀ c ∈ cs, isBlank c = true) : trimEnd cs = [] := by
  induction cs with
  | nil => rfl
  | cons c cs ih =>
    obtain ⟨hc, hcs⟩ := List.forall_mem_cons.1 h
    simp [trimEnd, ih hcs, hc]

end Blank

namespace Exclusion

theorem trimLine_of_getLast? {line : List Char}
    (h : ∀ c ∈ line.getLast?, Blank.isBlank c = false) : trimLine line = line := by
  unfold trimLine
  split
  · rfl
  · exact Blank.trimEnd_of_getLast? h

theorem trimLine_of_blank {line : List Char} (h : ∀ c ∈ line, Blank.isBlank c = true) :
    trimLine line = [] := by
  have hsuffix : ¬ ['\\', ' '].isSuffixOf line = true := by
    rw [List.isSuffixOf_iff_suffix]
    intro hsuffix
    have hblank := h '\\' (hsuffix.subset (by simp))
    exact absurd hblank (by decide)
  unfold trimLine
  rw [if_neg hsuffix, Blank.trimEnd_of_blank h]

/-! ## The library that runs: reading a line -/

/-- The parts of a pattern that match these characters one by one. -/
def literal (cs : List Char) : List Atom := cs.map fun c => .one (.exactly c)

theorem glob_cons {c : Char} (h : c ∉ signs) (cs : List Char) :
    glob (c :: cs) = (glob cs).map (.one (.exactly c) :: ·) := by
  simp only [signs, List.mem_cons, List.not_mem_nil, or_false, not_or] at h
  obtain ⟨-, -, hstar, hmark, hbracket, hbackslash⟩ := h
  rw [glob]
  all_goals simp_all

theorem glob_literal {cs : List Char} (h : ∀ c ∈ cs, c ∉ signs) : glob cs = .ok (literal cs) := by
  induction cs with
  | nil => simp [glob, literal]
  | cons c cs ih =>
    obtain ⟨hc, hcs⟩ := List.forall_mem_cons.1 h
    rw [glob_cons hc, ih hcs]
    rfl

namespace LiteralName

variable (n : LiteralName) (foldersOnly : Bool)

/-- The last part of a pattern with the name. -/
def lastAtom (foldersOnly : Bool) : Atom := if foldersOnly then .one (.exactly '/') else .finish

/-- The parts of a pattern with the name. -/
def atoms : List Atom := .outerFolders :: (literal n.chars ++ [lastAtom foldersOnly])

theorem star_notMem : '*' ∉ n.chars := fun hmem => n.plain '*' hmem (by decide)

theorem ne_star : n.chars ≠ ['*'] := by
  intro hstar
  exact n.star_notMem (by simp [hstar])

theorem ne_anyFolders : n.chars ≠ anyFolders := by
  intro hstars
  exact n.star_notMem (by simp [hstars, anyFolders])

/-- A name in full is meant at every level. -/
theorem anchor_written :
    anchor (Segments.split '/' (n.written foldersOnly)) =
      anyFolders :: n.chars :: if foldersOnly then [[]] else [] := by
  have hfolders := n.ne_anyFolders
  have hslash := n.slash_notMem
  unfold written folderSlash
  obtain ⟨c, rest, hcs⟩ := List.exists_cons_of_ne_nil n.ne_nil
  rw [hcs] at hfolders hslash ⊢
  cases foldersOnly with
  | false =>
    simp only [Bool.false_eq_true, if_false, List.append_nil]
    rw [Segments.split_of_notMem hslash]
    simp [anchor, hfolders]
  | true =>
    simp only [if_true]
    rw [Segments.split_append hslash, Segments.split_of_notMem (by simp)]
    simp [anchor, hfolders]

theorem collapse_openEnd :
    collapse (openEnd (anyFolders :: n.chars :: if foldersOnly then [[]] else [])) =
      anyFolders :: n.chars :: if foldersOnly then [anyFolders] else [] := by
  cases foldersOnly <;> simp [openEnd, collapse, n.ne_nil, n.ne_anyFolders]

theorem segmentAtoms_chars : segmentAtoms n.chars = .ok (literal n.chars) := by
  unfold segmentAtoms
  rw [if_neg n.ne_star, glob_literal n.plain]

theorem patternAtoms_chars :
    patternAtoms (anyFolders :: n.chars :: if foldersOnly then [anyFolders] else []) =
      .ok (n.atoms foldersOnly) := by
  cases foldersOnly <;>
    simp [patternAtoms, firstAtoms, laterAtoms, segmentAtoms_chars, atoms, lastAtom, bind,
      Except.bind, pure, Except.pure, Except.map]

/-- The shape of the pattern that a name in full stands for. -/
theorem shapeOf_written (isFolderPattern : Bool) :
    shapeOf isFolderPattern
        (collapse (openEnd (anchor (Segments.split '/' (n.written foldersOnly))))) =
      .ok (.parts (n.atoms foldersOnly)) := by
  rw [anchor_written, collapse_openEnd]
  unfold shapeOf
  rw [if_neg (by simp), if_neg (by simp [n.ne_star]), if_neg (by simp [n.ne_star]),
    patternAtoms_chars]
  rfl

theorem reversedRange?_atoms : reversedRange? (.parts (n.atoms foldersOnly)) = none := by
  unfold reversedRange? atoms literal
  dsimp only
  rw [List.findSome?_eq_none_iff]
  intro atom hatom
  simp only [List.mem_cons, List.mem_append, List.mem_map, List.not_mem_nil, or_false] at hatom
  rcases hatom with rfl | ⟨c, -, rfl⟩ | rfl
  · rfl
  · rfl
  · cases foldersOnly <;> rfl

theorem getLast?_written : ∀ c ∈ (n.written foldersOnly).getLast?, Blank.isBlank c = false := by
  unfold written folderSlash
  cases foldersOnly with
  | false => simpa using n.ending
  | true =>
    intro c hc
    rw [if_pos rfl, List.getLast?_concat, Option.mem_some] at hc
    subst hc
    decide

/-- A line with a name in full stands for the pattern of the name. -/
theorem shapeOfLine_entry (negated : Bool) :
    shapeOfLine (PlainLine.entry negated foldersOnly n).text =
      .ok (some (!negated, .parts (n.atoms foldersOnly))) := by
  obtain ⟨c, hhead, hcomment, hmark, hslash⟩ := n.head?_written foldersOnly
  obtain ⟨rest, hwritten⟩ := List.head?_eq_some_iff.1 hhead
  have htrim : trimLine (PlainLine.entry negated foldersOnly n).text.toList =
      (if negated then ['!'] else []) ++ n.written foldersOnly := by
    rw [PlainLine.toList_entry]
    apply trimLine_of_getLast?
    rw [List.getLast?_append_of_ne_nil _ (by simp [hwritten])]
    exact n.getLast?_written foldersOnly
  have hne : n.written foldersOnly ≠ [] ∧ n.written foldersOnly ≠ ['/'] := by
    simp [hwritten, hslash]
  have hanchor : anchor (Segments.split '/' (n.written foldersOnly)) ≠ [] := by
    simp [n.anchor_written]
  unfold shapeOfLine
  simp only [htrim]
  cases negated with
  | true => simp [hanchor, n.shapeOf_written, n.reversedRange?_atoms]
  | false =>
    simp [hhead, hcomment, hmark, hne, hanchor, n.shapeOf_written, n.reversedRange?_atoms]

end LiteralName

/-! ## The library that runs: matching a path -/

theorem matchFront_literal (cs : List Char) (atoms : List Atom) (subject : List Char) :
    matchFront (literal cs ++ atoms) subject = true ↔
      ∃ rest, subject = cs ++ rest ∧ matchFront atoms rest = true := by
  induction cs generalizing subject with
  | nil => simp [literal]
  | cons c cs ih =>
    have hcons : literal (c :: cs) ++ atoms = .one (.exactly c) :: (literal cs ++ atoms) := rfl
    rw [hcons, matchFront]
    cases subject with
    | nil => simp [Atom.rests]
    | cons d ds =>
      by_cases hd : d = c
      · simp [Atom.rests, CharTest.holds, hd, ih]
      · simp [Atom.rests, CharTest.holds, hd]

theorem matchFront_finish (rest : List Char) :
    matchFront [.finish] rest = true ↔
      rest = [] ∨ rest = ['\n'] ∨ ∃ more, rest = '/' :: more := by
  simp only [matchFront, Atom.rests]
  split <;> simp_all

theorem matchFront_slash (rest : List Char) :
    matchFront [.one (.exactly '/')] rest = true ↔ ∃ more, rest = '/' :: more := by
  cases rest with
  | nil => simp [matchFront, Atom.rests]
  | cons c cs => by_cases hc : c = '/' <;> simp [matchFront, Atom.rests, CharTest.holds, hc]

theorem mem_afterSlashes_iff {cs : List Char} (hfeed : '\n' ∉ cs) (rest : List Char) :
    rest ∈ afterSlashes cs ↔ ∃ before, cs = before ++ '/' :: rest := by
  induction cs with
  | nil => simp [afterSlashes]
  | cons c cs ih =>
    simp only [List.mem_cons, not_or] at hfeed
    have hc : ¬ c = '\n' := fun hc => hfeed.1 hc.symm
    rw [afterSlashes, if_neg hc, List.mem_append, ih hfeed.2]
    constructor
    · rintro (hself | ⟨before, rfl⟩)
      · split at hself
        · rename_i hslash
          rw [List.mem_singleton.1 hself]
          exact ⟨[], by rw [hslash]; rfl⟩
        · cases hself
      · exact ⟨c :: before, rfl⟩
    · rintro ⟨before, heq⟩
      cases before with
      | nil =>
        cases heq
        simp
      | cons b before =>
        cases heq
        exact Or.inr ⟨before, rfl⟩

/-- Outer folders leave all of a path, or what comes after a slash. -/
theorem mem_rests_outerFolders_iff {cs : List Char} (hfeed : '\n' ∉ cs) (htop : ¬ ['/'] <+: cs)
    (rest : List Char) :
    rest ∈ Atom.outerFolders.rests cs ↔
      ∃ before, cs = before ++ rest ∧ (before = [] ∨ ['/'] <:+ before) := by
  cases cs with
  | nil =>
    simp only [Atom.rests, List.mem_singleton]
    constructor
    · rintro rfl
      exact ⟨[], rfl, Or.inl rfl⟩
    · rintro ⟨before, heq, -⟩
      exact (List.append_eq_nil_iff.1 heq.symm).2
  | cons c cs =>
    simp only [List.mem_cons, not_or] at hfeed
    have hc : ¬ c = '\n' := fun hc => hfeed.1 hc.symm
    simp only [Atom.rests, if_neg hc, List.mem_cons, mem_afterSlashes_iff hfeed.2]
    constructor
    · rintro (rfl | ⟨before, rfl⟩)
      · exact ⟨[], rfl, Or.inl rfl⟩
      · exact ⟨c :: before ++ ['/'], by simp, Or.inr ⟨c :: before, rfl⟩⟩
    · rintro ⟨before, heq, rfl | ⟨outer, rfl⟩⟩
      · exact Or.inl heq.symm
      · cases outer with
        | nil => exact absurd ⟨rest, heq.symm⟩ htop
        | cons d outer =>
          cases heq
          exact Or.inr ⟨outer, by simp⟩

theorem matchFront_lastAtom_iff {after : List Char} (hfeed : '\n' ∉ after) (foldersOnly : Bool) :
    matchFront [LiteralName.lastAtom foldersOnly] after = true ↔
      ['/'] <+: after ∨ after = [] ∧ foldersOnly = false := by
  have hslash : ['/'] <+: after ↔ ∃ more, after = '/' :: more :=
    exists_congr fun more => eq_comm
  cases foldersOnly with
  | true => simpa [LiteralName.lastAtom, hslash] using matchFront_slash after
  | false =>
    have hline : after ≠ ['\n'] := by
      rintro rfl
      simp at hfeed
    simpa [LiteralName.lastAtom, hslash, hline, or_comm] using matchFront_finish after

/-- The pattern of a name matches the paths that the name is on. -/
theorem LiteralName.matchFront_atoms_iff (n : LiteralName) (foldersOnly : Bool) {cs : List Char}
    (hfeed : '\n' ∉ cs) (htop : ¬ ['/'] <+: cs) :
    matchFront (n.atoms foldersOnly) cs = true ↔ n.IsOn foldersOnly cs := by
  unfold atoms
  rw [matchFront, List.any_eq_true]
  constructor
  · rintro ⟨rest, hrest, hmatch⟩
    obtain ⟨before, rfl, hbefore⟩ := (mem_rests_outerFolders_iff hfeed htop rest).1 hrest
    obtain ⟨after, rfl, hlast⟩ := (matchFront_literal _ _ _).1 hmatch
    have hnone : '\n' ∉ after := fun hmem => hfeed (by simp [hmem])
    exact ⟨before, after, by simp, hbefore, (matchFront_lastAtom_iff hnone foldersOnly).1 hlast⟩
  · rintro ⟨before, after, rfl, hbefore, hafter⟩
    have hnone : '\n' ∉ after := fun hmem => hfeed (by simp [hmem])
    refine ⟨n.chars ++ after, ?_, ?_⟩
    · exact (mem_rests_outerFolders_iff hfeed htop _).2 ⟨before, by simp, hbefore⟩
    · exact (matchFront_literal _ _ _).2
        ⟨after, rfl, (matchFront_lastAtom_iff hnone foldersOnly).2 hafter⟩

theorem subject_of_isPlainPath {path : String} (h : IsPlainPath path) :
    subject path = path.toList := by
  obtain ⟨-, htop, hstep⟩ := h
  unfold subject
  split
  · rename_i rest heq
    exact absurd ⟨rest, heq.symm⟩ htop
  · rename_i rest heq
    exact absurd ⟨rest, heq.symm⟩ hstep
  · rfl

/-- The library with which the program runs reads lines as the syntax of git has them. -/
theorem readsGit_gitSyntax : gitSyntax.ReadsGit where
  toLawful := lawful_gitSyntax
  blank text h := by
    show gitRule text = .ok none
    unfold gitRule shapeOfLine
    simp [trimLine_of_blank h, Except.map]
  comment text := by
    have hhead : (trimLine ("#" ++ text).toList).head? = some '#' := by
      rw [head?_trimLine (by decide), String.toList_append]
      rfl
    have hnone : shapeOfLine ("#" ++ text) = .ok none := by
      unfold shapeOfLine
      exact if_pos (by rw [hhead]; simp)
    show gitRule ("#" ++ text) = .ok none
    rw [gitRule, hnone]
    rfl
  entry negated foldersOnly n := by
    let shape := Shape.parts (n.atoms foldersOnly)
    refine ⟨⟨!negated, fun path => shape.holds (subject path)⟩, ?_, ?_⟩
    · exact (gitRule_eq_some_iff _ _).2 ⟨shape, n.shapeOfLine_entry foldersOnly negated, rfl⟩
    · intro path hpath
      show matchFront (n.atoms foldersOnly) (subject path) = true ↔ _
      rw [subject_of_isPlainPath hpath]
      exact n.matchFront_atoms_iff foldersOnly hpath.1 hpath.2.1

/-! ## What is said last of a name -/

namespace PlainLine

variable {L : Library} {name : String} {isFolder : Bool}

theorem isOk_ruleOf_text (hL : L.ReadsGit) (line : PlainLine) :
    (L.ruleOf line.text).isOk = true := by
  cases line with
  | blank text h => rw [PlainLine.text, hL.blank text h]; rfl
  | comment text => rw [PlainLine.text, hL.comment text]; rfl
  | entry negated foldersOnly n =>
    obtain ⟨rule, hrule, -⟩ := hL.entry negated foldersOnly n
    rw [hrule]
    rfl

theorem exists_rulesOf_text (hL : L.ReadsGit) (lines : List PlainLine) :
    ∃ rules, rulesOf L.ruleOf (lines.map text) = .ok rules := by
  apply exists_rulesOf
  rintro _ hmem
  obtain ⟨line, -, rfl⟩ := List.mem_map.1 hmem
  exact isOk_ruleOf_text hL line

section Verdict

variable (hL : L.ReadsGit) (hname : Path.IsComponent name) (hfeed : '\n' ∉ name.toList)

include hL hname hfeed

/-- A line matches what it is about. -/
theorem lineMatches_text_iff (line : PlainLine) :
    lineMatches L line.text name isFolder = true ↔ line.Concerns name isFolder := by
  unfold lineMatches
  cases line with
  | blank text h => simp [PlainLine.text, hL.blank text h, Concerns]
  | comment text => simp [PlainLine.text, hL.comment text, Concerns]
  | entry negated foldersOnly n =>
    obtain ⟨rule, hrule, hholds⟩ := hL.entry negated foldersOnly n
    rw [hrule]
    exact (hholds _ (isPlainPath_entryPath hname hfeed)).trans
      (n.isOn_entryPath_iff hname.2.2 foldersOnly)

theorem any_holds_iff {lines : List PlainLine} {rules : List Rule}
    (hrules : rulesOf L.ruleOf (lines.map text) = .ok rules) :
    (rules.any fun rule => rule.holds (entryPath name isFolder)) = true ↔
      ∃ line ∈ lines, line.Concerns name isFolder := by
  rw [any_holds_of_rulesOf hrules, List.any_map, List.any_eq_true]
  simp only [Function.comp_apply, lineMatches_text_iff hL hname hfeed]

/-- The rule of a line with the name says what the line says. -/
theorem exists_rule_of_concerns {line : PlainLine} (hline : line.Concerns name isFolder) :
    ∃ rule, L.ruleOf line.text = .ok (some rule) ∧ rule.excludes = !line.isNegated ∧
      rule.holds (entryPath name isFolder) = true := by
  have hmatches := (lineMatches_text_iff hL hname hfeed line).2 hline
  cases line with
  | blank text h => cases hline
  | comment text => cases hline
  | entry negated foldersOnly n =>
    obtain ⟨rule, hrule, -⟩ := hL.entry negated foldersOnly n
    refine ⟨rule, hrule, ?_, ?_⟩
    · rw [hL.negationFlag _ rule hrule, isNegation_entry]
      rfl
    · simpa [lineMatches, hrule] using hmatches

/-- What is said last of a name decides. -/
theorem verdict_of_last {before after : List PlainLine} {line : PlainLine}
    (hline : line.Concerns name isFolder)
    (hafter : ∀ other ∈ after, ¬ other.Concerns name isFolder) {rules : List Rule}
    (hrules : rulesOf L.ruleOf ((before ++ line :: after).map text) = .ok rules) :
    verdict rules (entryPath name isFolder) = !line.isNegated := by
  obtain ⟨earlier, hearlier⟩ := exists_rulesOf_text hL before
  obtain ⟨later, hlater⟩ := exists_rulesOf_text hL after
  obtain ⟨rule, hrule, hexcludes, hholds⟩ := exists_rule_of_concerns hL hname hfeed hline
  -- the rules are those of the lines before, that of the line, and those of the lines after
  have hfrom : rulesOf L.ruleOf ((line :: after).map text) = .ok (rule :: later) :=
    (rulesOf_cons_eq_ok_iff _ _ _).2 ⟨some rule, later, hrule, hlater, rfl⟩
  have hall := rulesOf_append hearlier hfrom
  rw [← List.map_append, hrules] at hall
  cases hall
  have hnone : ¬ (later.any fun rule => rule.holds (entryPath name isFolder)) = true := by
    rw [any_holds_iff hL hname hfeed hlater]
    rintro ⟨other, hother, hconcerns⟩
    exact hafter other hother hconcerns
  have hsome : ((rule :: later).any fun rule => rule.holds (entryPath name isFolder)) = true := by
    rw [List.any_cons, hholds, Bool.true_or]
  rw [verdict_append, if_pos hsome, ← List.singleton_append, verdict_append, if_neg hnone,
    ← hexcludes]
  simp [verdict, hholds]

theorem verdict_of_none {lines : List PlainLine}
    (h : ∀ line ∈ lines, ¬ line.Concerns name isFolder) {rules : List Rule}
    (hrules : rulesOf L.ruleOf (lines.map text) = .ok rules) :
    verdict rules (entryPath name isFolder) = false := by
  have hnone : ¬ (rules.any fun rule => rule.holds (entryPath name isFolder)) = true := by
    rw [any_holds_iff hL hname hfeed hrules]
    rintro ⟨line, hline, hconcerns⟩
    exact h line hline hconcerns
  have hverdict := verdict_append [] rules (entryPath name isFolder)
  rw [if_neg hnone] at hverdict
  exact hverdict

end Verdict

end PlainLine

/-- Lines that are blank, comments, or names in full can always be compiled, in a list of their own
and in the ignore file of a project. An entry is left out if the last line with its name is no
negation, and kept if that line is one or if there is none. A line with a slash at its end counts
for folders only. -/
theorem last_line_decides (L : Library) (hL : L.ReadsGit) (lines : List PlainLine) :
    ∃ rules, L.compile (lines.map PlainLine.text) = .ok rules ∧
      (∀ disk folder base extra, baseLines disk folder = .ok base →
        base ++ extra = lines.map PlainLine.text → load L disk folder extra = .ok rules) ∧
      ∀ (name : String) (isFolder : Bool), Path.IsComponent name → '\n' ∉ name.toList →
        (∀ before line after, lines = before ++ line :: after →
          PlainLine.Concerns name isFolder line →
          (∀ other ∈ after, ¬ PlainLine.Concerns name isFolder other) →
            rules.excluded name isFolder = !line.isNegated) ∧
        ((∀ line ∈ lines, ¬ PlainLine.Concerns name isFolder line) →
          rules.excluded name isFolder = false) := by
  obtain ⟨rules, hrules⟩ := PlainLine.exists_rulesOf_text hL lines
  obtain ⟨compiled, hcompile, hverdict⟩ := hL.exists_compile hrules
  refine ⟨compiled, hcompile, ?_, ?_⟩
  · intro disk folder base extra hbase hlines
    exact load_eq_ok hbase (hlines ▸ hcompile)
  · intro name isFolder hname hfeed
    unfold Rules.excluded
    rw [hverdict]
    constructor
    · rintro before line after rfl hline hafter
      exact PlainLine.verdict_of_last hL hname hfeed hline hafter hrules
    · intro hnone
      exact PlainLine.verdict_of_none hL hname hfeed hnone hrules

/-- A project with an ignore file. -/
def listedDisk : Disk :=
  [(".tsgraphignore", .file (Utf8.encode "# left out\n  \ndist/\na.b\n".toList))]

def distName : LiteralName where
  chars := ['d', 'i', 's', 't']
  ne_nil := by simp
  plain := by simp [signs]
  ending := by simp [Blank.isBlank, Blank.blanks]
  opening := by simp [Blank.isBlank, Blank.blanks]

def dottedName : LiteralName where
  chars := ['a', '.', 'b']
  ne_nil := by simp
  plain := by simp [signs]
  ending := by simp [Blank.isBlank, Blank.blanks]
  opening := by simp [Blank.isBlank, Blank.blanks]

/-- The lines of the file, and one more that takes a folder back in. -/
def listedLines : List PlainLine :=
  [.comment " left out", .blank "  " (by simp [Blank.isBlank, Blank.blanks]),
    .entry false true distName, .entry false false dottedName, .entry true true dottedName]

theorem last_line_decides_listed :
    ∃ rules, load gitSyntax listedDisk (some []) ["!a.b/"] = .ok rules ∧
      rules.excluded "dist" true = true ∧ rules.excluded "dist" false = false ∧
      rules.excluded "a.b" true = false ∧ rules.excluded "a.b" false = true := by
  obtain ⟨rules, -, hload, hdecides⟩ := last_line_decides gitSyntax readsGit_gitSyntax listedLines
  have hdist := fun isFolder => hdecides "dist" isFolder (by decide) (by decide)
  have hdotted := fun isFolder => hdecides "a.b" isFolder (by decide) (by decide)
  refine ⟨rules, ?_, ?_, ?_, ?_, ?_⟩
  · exact hload listedDisk (some []) ["# left out", "  ", "dist/", "a.b"] ["!a.b/"]
      (by decide +kernel) (by decide +kernel)
  · exact (hdist true).1 (listedLines.take 2) (.entry false true distName) (listedLines.drop 3) rfl
      (by decide) (by decide)
  · exact (hdist false).2 (by decide)
  · exact (hdotted true).1 (listedLines.take 4) (.entry true true dottedName) [] rfl (by decide)
      (by decide)
  · exact (hdotted false).1 (listedLines.take 3) (.entry false false dottedName)
      (listedLines.drop 4) rfl (by decide) (by decide)

end Exclusion

end CodeAtlas
