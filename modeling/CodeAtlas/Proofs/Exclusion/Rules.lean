-- The laws of libraries for patterns. Lines are compiled one by one, a line takes names back in
-- exactly if it starts with an exclamation mark, and the last pattern that matches decides. So
-- lines without an exclamation mark can only exclude more when they come last.
import CodeAtlas.Exclusion.GitSyntax

namespace CodeAtlas

namespace Exclusion

/-- The line is to take names back in. -/
def isNegation (line : String) : Bool := line.toList.head? = some '!'

/-- What is taken for granted of a library for patterns. -/
structure Library.Lawful (L : Library) : Prop where
  /-- Lines are compiled one by one, and what fails is the first that is no pattern. -/
  lineWise : ∀ lines e, L.compile lines = .error e ↔ rulesOf L.ruleOf lines = .error e
  /-- A pattern excludes unless its line starts with an exclamation mark. -/
  negationFlag : ∀ line rule, L.ruleOf line = .ok (some rule) → rule.excludes = !isNegation line
  /-- The last pattern that matches a path decides. -/
  lastMatch : ∀ lines rules compiled, rulesOf L.ruleOf lines = .ok rules →
    L.compile lines = .ok compiled → ∀ path, compiled.leavesOut path = verdict rules path

variable {L : Library} {ruleOf : String → Except PatternError (Option Rule)}
  {lines more : List String} {rules rest : List Rule}

/-! ## Lists of lines -/

theorem rulesOf_cons_eq_ok_iff (line : String) (lines : List String) (rules : List Rule) :
    rulesOf ruleOf (line :: lines) = .ok rules ↔ ∃ rule rest, ruleOf line = .ok rule ∧
      rulesOf ruleOf lines = .ok rest ∧ rules = rule.toList ++ rest := by
  conv => lhs; unfold rulesOf
  cases ruleOf line with
  | error e => simp [bind, Except.bind]
  | ok rule => cases rulesOf ruleOf lines <;> simp [bind, Except.bind, pure, Except.pure, eq_comm]

/-- Lines have rules if each of them is a pattern. -/
theorem exists_rulesOf (h : ∀ line ∈ lines, (ruleOf line).isOk = true) :
    ∃ rules, rulesOf ruleOf lines = .ok rules := by
  induction lines with
  | nil => exact ⟨[], rfl⟩
  | cons line lines ih =>
    obtain ⟨hline, hlines⟩ := List.forall_mem_cons.1 h
    obtain ⟨rest, hrest⟩ := ih hlines
    cases hrule : ruleOf line with
    | error e =>
      rw [hrule] at hline
      cases hline
    | ok rule => exact ⟨_, (rulesOf_cons_eq_ok_iff _ _ _).2 ⟨rule, rest, hrule, hrest, rfl⟩⟩

/-- The rules of lines are those of the first lines, then those of the last. -/
theorem rulesOf_append (h : rulesOf ruleOf lines = .ok rules)
    (hmore : rulesOf ruleOf more = .ok rest) :
    rulesOf ruleOf (lines ++ more) = .ok (rules ++ rest) := by
  induction lines generalizing rules with
  | nil =>
    cases h
    exact hmore
  | cons line lines ih =>
    obtain ⟨rule, others, hrule, hothers, rfl⟩ := (rulesOf_cons_eq_ok_iff _ _ _).1 h
    refine (rulesOf_cons_eq_ok_iff _ _ _).2 ⟨rule, others ++ rest, hrule, ih hothers, ?_⟩
    rw [List.append_assoc]

theorem mem_of_rulesOf (h : rulesOf ruleOf lines = .ok rules) {rule : Rule} (hrule : rule ∈ rules) :
    ∃ line ∈ lines, ruleOf line = .ok (some rule) := by
  induction lines generalizing rules with
  | nil =>
    cases h
    cases hrule
  | cons line lines ih =>
    obtain ⟨first, rest, hfirst, hrest, rfl⟩ := (rulesOf_cons_eq_ok_iff _ _ _).1 h
    rcases List.mem_append.1 hrule with hmem | hmem
    · rw [Option.mem_toList.1 hmem] at hfirst
      exact ⟨line, List.mem_cons_self, hfirst⟩
    · obtain ⟨other, hother, hruleOf⟩ := ih hrest hmem
      exact ⟨other, List.mem_cons_of_mem _ hother, hruleOf⟩

/-- The line has a rule, and its pattern matches what has this name. -/
def lineMatches (L : Library) (line name : String) (isFolder : Bool) : Bool :=
  match L.ruleOf line with
  | .ok (some rule) => rule.holds (entryPath name isFolder)
  | _ => false

/-- Some rule matches a name if some line does. -/
theorem any_holds_of_rulesOf (h : rulesOf L.ruleOf lines = .ok rules) (name : String)
    (isFolder : Bool) :
    (rules.any fun rule => rule.holds (entryPath name isFolder)) =
      lines.any fun line => lineMatches L line name isFolder := by
  induction lines generalizing rules with
  | nil =>
    cases h
    rfl
  | cons line lines ih =>
    obtain ⟨first, rest, hfirst, hrest, rfl⟩ := (rulesOf_cons_eq_ok_iff _ _ _).1 h
    rw [List.any_append, List.any_cons, ih hrest]
    cases first <;> simp [lineMatches, hfirst]

/-! ## Further rules -/

/-- Rules that come last decide wherever one of them matches. -/
theorem verdict_append (rules more : List Rule) (path : String) :
    verdict (rules ++ more) path =
      if more.any fun rule => rule.holds path then verdict more path else verdict rules path := by
  unfold verdict
  -- the verdict is that of the first match from the end
  rw [List.reverse_append, List.find?_append]
  cases hmore : more.reverse.find? fun rule => rule.holds path with
  | none =>
    have hnone : (more.any fun rule => rule.holds path) = false := by
      rw [List.find?_eq_none] at hmore
      simpa using hmore
    simp [hnone]
  | some rule =>
    have hsome : (more.any fun rule => rule.holds path) = true := by
      have hholds := List.find?_some hmore
      exact List.any_eq_true.2
        ⟨rule, List.mem_reverse.1 (List.mem_of_find?_eq_some hmore), hholds⟩
    simp [hsome]

theorem verdict_of_excludes (h : ∀ rule ∈ rules, rule.excludes = true) {path : String}
    (hmatch : (rules.any fun rule => rule.holds path) = true) : verdict rules path = true := by
  unfold verdict
  cases hfind : rules.reverse.find? fun rule => rule.holds path with
  | none =>
    obtain ⟨rule, hrule, hholds⟩ := List.any_eq_true.1 hmatch
    exact absurd hholds (List.find?_eq_none.1 hfind rule (List.mem_reverse.2 hrule))
  | some rule => exact h rule (List.mem_reverse.1 (List.mem_of_find?_eq_some hfind))

/-! ## Compiled lines -/

namespace Library.Lawful

variable {compiled compiled' : Rules}

theorem exists_compile (hL : L.Lawful) (h : rulesOf L.ruleOf lines = .ok rules) :
    ∃ compiled, L.compile lines = .ok compiled ∧
      ∀ path, compiled.leavesOut path = verdict rules path := by
  cases hcompile : L.compile lines with
  | error e =>
    rw [hL.lineWise, h] at hcompile
    cases hcompile
  | ok compiled => exact ⟨compiled, rfl, hL.lastMatch lines rules compiled h hcompile⟩

theorem exists_rulesOf_of_compile (hL : L.Lawful) (h : L.compile lines = .ok compiled) :
    ∃ rules, rulesOf L.ruleOf lines = .ok rules ∧
      ∀ path, compiled.leavesOut path = verdict rules path := by
  cases hrules : rulesOf L.ruleOf lines with
  | error e =>
    rw [← hL.lineWise, h] at hrules
    cases hrules
  | ok rules => exact ⟨rules, rfl, hL.lastMatch lines rules compiled hrules h⟩

/-- Further lines without negations can be compiled with the others. They leave out what was left
out, and what one of them matches. -/
theorem exists_compile_append (hL : L.Lawful) (h : L.compile lines = .ok compiled)
    (hvalid : ∀ line ∈ more, (L.ruleOf line).isOk = true)
    (hplain : ∀ line ∈ more, isNegation line = false) :
    ∃ compiled', L.compile (lines ++ more) = .ok compiled' ∧ ∀ name isFolder,
      compiled'.excluded name isFolder = (compiled.excluded name isFolder ||
        more.any fun line => lineMatches L line name isFolder) := by
  obtain ⟨rules, hrules, hverdict⟩ := hL.exists_rulesOf_of_compile h
  obtain ⟨rest, hrest⟩ := exists_rulesOf hvalid
  obtain ⟨compiled', hcompile, hverdict'⟩ := hL.exists_compile (rulesOf_append hrules hrest)
  refine ⟨compiled', hcompile, fun name isFolder => ?_⟩
  have hexcludes : ∀ rule ∈ rest, rule.excludes = true := by
    intro rule hrule
    obtain ⟨line, hline, hruleOf⟩ := mem_of_rulesOf hrest hrule
    rw [hL.negationFlag line rule hruleOf, hplain line hline]
    rfl
  unfold Rules.excluded
  rw [hverdict, hverdict', verdict_append, ← any_holds_of_rulesOf hrest]
  split
  · rename_i hmatch
    rw [verdict_of_excludes hexcludes hmatch, hmatch, Bool.or_true]
  · rename_i hnone
    rw [Bool.eq_false_iff.2 hnone, Bool.or_false]

end Library.Lawful

/-- The rules of a project with further patterns are those of its own lines and of these. -/
theorem load_eq_ok {disk : Disk} {folder : Option (List String)} {base extra : List String}
    {compiled : Rules} (hbase : baseLines disk folder = .ok base)
    (h : L.compile (base ++ extra) = .ok compiled) :
    load L disk folder extra = .ok compiled := by
  unfold load
  rw [hbase]
  simp only [bind, Except.bind, h]
  rfl

end Exclusion

/-! ## The syntax of git -/

theorem Blank.head?_trimEnd {c : Char} (hc : isBlank c = false) (cs : List Char) :
    (trimEnd cs).head? = some c ↔ cs.head? = some c := by
  cases cs with
  | nil => rfl
  | cons d ds =>
    unfold trimEnd
    cases trimEnd ds with
    | cons e es => rfl
    | nil =>
      by_cases hd : isBlank d = true
      · have hne : d ≠ c := by
          rintro rfl
          cases hc.symm.trans hd
        simp [hd, hne]
      · simp [hd]

namespace Exclusion

theorem head?_trimLine {c : Char} (hc : Blank.isBlank c = false) (line : List Char) :
    (trimLine line).head? = some c ↔ line.head? = some c := by
  unfold trimLine
  split
  · rfl
  · exact Blank.head?_trimEnd hc line

theorem excludes_of_shapeOfLine {line : String} {excludes : Bool} {shape : Shape}
    (h : shapeOfLine line = .ok (some (excludes, shape))) : excludes = !isNegation line := by
  have hhead := head?_trimLine (c := '!') (by decide) line.toList
  unfold shapeOfLine at h
  dsimp only at h
  generalize Segments.split '/' _ = segments at h
  split at h
  · cases h
  · split at h
    · cases h
    · split at h
      · cases h
      · cases h
      · split at h
        · cases h
        · cases h
          simp [isNegation, hhead]

theorem gitRule_eq_some_iff (line : String) (rule : Rule) :
    gitRule line = .ok (some rule) ↔ ∃ shape, shapeOfLine line = .ok (some (rule.excludes, shape)) ∧
      rule.holds = fun path => shape.holds (subject path) := by
  unfold gitRule
  cases shapeOfLine line with
  | error e => simp [Except.map]
  | ok found =>
    cases found with
    | none => simp [Except.map]
    | some found =>
      obtain ⟨excludes, shape⟩ := found
      obtain ⟨excludes', holds⟩ := rule
      simp only [Except.map, Option.map_some, Except.ok.injEq, Option.some.injEq, Rule.mk.injEq,
        Prod.mk.injEq]
      constructor
      · rintro ⟨rfl, rfl⟩
        exact ⟨shape, ⟨rfl, rfl⟩, rfl⟩
      · rintro ⟨shape', ⟨rfl, rfl⟩, rfl⟩
        exact ⟨rfl, rfl⟩

/-- The library with which the program runs keeps to the laws. -/
theorem lawful_gitSyntax : gitSyntax.Lawful where
  lineWise lines e := by
    show (rulesOf gitRule lines).map _ = .error e ↔ rulesOf gitRule lines = .error e
    cases rulesOf gitRule lines <;> simp [Except.map]
  negationFlag line rule h := by
    obtain ⟨shape, hshape, -⟩ := (gitRule_eq_some_iff line rule).1 h
    exact excludes_of_shapeOfLine hshape
  lastMatch lines rules compiled hrules h path := by
    change (rulesOf gitRule lines).map _ = .ok compiled at h
    change rulesOf gitRule lines = .ok rules at hrules
    rw [hrules] at h
    cases h
    rfl

/-- What lines stand for in the syntax of git, if each of them is a pattern. -/
def gitRules (lines : List String) : Rules := ⟨verdict ((rulesOf gitRule lines).toOption.getD [])⟩

theorem compile_eq_gitRules (h : (rulesOf gitRule lines).isOk = true) :
    gitSyntax.compile lines = .ok (gitRules lines) := by
  show (rulesOf gitRule lines).map _ = _
  unfold gitRules
  cases hrules : rulesOf gitRule lines with
  | error e =>
    rw [hrules] at h
    cases h
  | ok rules => rfl

end Exclusion

end CodeAtlas
