-- Dependencies read off the statements of files. A statement that calls an identifier makes one
-- if a statement of any file declares the name, wherever that file stands. So another order of the
-- projects only moves their dependencies, and further projects only add some.
import CodeAtlas.Proofs.Project.Files
import CodeAtlas.Proofs.Project.Hiding
import CodeAtlas.Proofs.Project.TopLevelCalls

namespace CodeAtlas

/-- A statement at the top level of a file whose source was read. -/
structure Site where
  file : Node
  source : Source
  statement : Phrase

/-! ## Statements -/

namespace Site

/-- The statement is a call of the identifier. -/
def Calls (site : Site) (name : String) : Prop :=
  site.statement.kind = "expression_statement" ∧
    ∃ call, site.statement.namedChildren.head? = some call ∧ call.kind = "call_expression" ∧
      ∃ callee, call.child? .function = some callee ∧ callee.kind = "identifier" ∧
        site.source.textOf callee = name

/-- The statement declares the function. -/
def Declares (site : Site) (name : String) : Prop :=
  site.statement.isDeclaration = true ∧
    ∃ part, site.statement.child? .name = some part ∧ site.source.textOf part = name

/-- The identifier that the statement calls. -/
def called? (site : Site) : Option String :=
  site.statement.statementCall?.bind site.source.identifierName?

/-- The function that the statement declares. -/
def declared? (site : Site) : Option String :=
  if site.statement.isDeclaration then (site.statement.child? .name).map site.source.textOf
  else none

theorem called?_eq_some_iff (site : Site) (name : String) :
    site.called? = some name ↔ site.Calls name := by
  unfold called? Calls Phrase.statementCall? Source.identifierName?
  by_cases hkind : site.statement.kind = "expression_statement"
  · simp [hkind, Option.bind_eq_some_iff, Option.filter_eq_some_iff, Phrase.isCall, and_assoc]
  · simp [hkind]

theorem declared?_eq_some_iff (site : Site) (name : String) :
    site.declared? = some name ↔ site.Declares name := by
  unfold declared? Declares
  cases site.statement.isDeclaration <;> simp

end Site

/-- The statements at the top level of a file, in the order of the text. -/
def Node.sites (f : Node) : List Site :=
  match f.source with
  | none => []
  | some s => s.body.map fun statement => ⟨f, s, statement⟩

/-- The statements at the top level of all files, file by file in reading order. -/
def sitesOf (roots : List Project) : List Site := (roots.flatMap Project.files).flatMap Node.sites

theorem sitesOf_append (roots more : List Project) :
    sitesOf (roots ++ more) = sitesOf roots ++ sitesOf more := by
  simp [sitesOf]

theorem sitesOf_eq_flatMap (roots : List Project) :
    sitesOf roots = roots.flatMap fun p => sitesOf [p] := by
  induction roots with
  | nil => rfl
  | cons p roots ih => rw [← List.singleton_append, sitesOf_append, ih, List.flatMap_append,
      List.flatMap_singleton]

theorem sitesOf_perm {roots others : List Project} (h : roots.Perm others) :
    (sitesOf roots).Perm (sitesOf others) :=
  (h.flatMap_right Project.files).flatMap_right Node.sites

theorem flatMap_sites_filter_isParsed (fs : List Node) (hfiles : ∀ f ∈ fs, f.isFile = true) :
    (fs.filter Node.isParsed).flatMap Node.sites = fs.flatMap Node.sites := by
  induction fs with
  | nil => rfl
  | cons f fs ih =>
    obtain ⟨hf, hfs⟩ := List.forall_mem_cons.1 hfiles
    rw [List.flatMap_cons, ← ih hfs]
    cases hsource : f.source with
    | none => simp [Node.isParsed, Node.sites, hsource]
    | some s => simp [Node.isParsed, hf, hsource]

/-- Only files whose source was read have statements. -/
theorem sitesOf_eq_parsed (roots : List Project) :
    sitesOf roots = (parsedFilesOf roots).flatMap Node.sites := by
  unfold sitesOf parsedFilesOf Project.parsedFiles
  rw [← List.filter_flatMap, flatMap_sites_filter_isParsed]
  intro f hf
  obtain ⟨p, -, hp⟩ := List.mem_flatMap.1 hf
  exact (Project.mem_files.1 hp).2

/-! ## Dependencies -/

/-- A statement of some file declares the function. -/
def DeclaredIn (roots : List Project) (name : String) : Prop :=
  ∃ site ∈ sitesOf roots, site.Declares name

instance (roots : List Project) (name : String) : Decidable (DeclaredIn roots name) :=
  decidable_of_iff (name ∈ (sitesOf roots).filterMap Site.declared?) <| by
    simp only [DeclaredIn, List.mem_filterMap, Site.declared?_eq_some_iff]

/-- The dependency that a statement makes within some projects. -/
def Site.dependency? (roots : List Project) (site : Site) : Option Dependency :=
  (site.called?.filter fun name => DeclaredIn roots name).map fun name =>
    ⟨name, name, site.file.path⟩

/-- The dependencies that the files of one of the projects make. -/
def Dependency.block (roots : List Project) (p : Project) : List Dependency :=
  (sitesOf [p]).filterMap fun site => site.dependency? roots

theorem Site.dependency?_eq_some_iff (roots : List Project) (site : Site) (d : Dependency) :
    site.dependency? roots = some d ↔ ∃ name, site.Calls name ∧ DeclaredIn roots name ∧
      d = ⟨name, name, site.file.path⟩ := by
  unfold dependency?
  simp only [Option.map_eq_some_iff, Option.filter_eq_some_iff, called?_eq_some_iff,
    decide_eq_true_eq, and_assoc]
  constructor
  · rintro ⟨name, hcalls, hdeclared, rfl⟩
    exact ⟨name, hcalls, hdeclared, rfl⟩
  · rintro ⟨name, hcalls, hdeclared, rfl⟩
    exact ⟨name, hcalls, hdeclared, rfl⟩

theorem Node.declares_iff (f : Node) (name : String) :
    f.Declares name ↔ ∃ site ∈ f.sites, site.Declares name := by
  unfold Declares sites Source.topLevelFunctions
  cases f.source with
  | none => simp
  | some s => simp [Site.Declares, and_assoc]

theorem declaredIn_iff (roots : List Project) (name : String) :
    DeclaredIn roots name ↔ ∃ f ∈ parsedFilesOf roots, f.Declares name := by
  unfold DeclaredIn
  simp only [sitesOf_eq_parsed, List.mem_flatMap, Node.declares_iff]
  constructor
  · rintro ⟨site, ⟨f, hf, hsite⟩, hdeclares⟩
    exact ⟨f, hf, site, hsite, hdeclares⟩
  · rintro ⟨f, hf, site, hsite, hdeclares⟩
    exact ⟨site, ⟨f, hf, hsite⟩, hdeclares⟩

/-- Only what the statements are decides what is declared. -/
theorem DeclaredIn.mono {roots others : List Project} (h : sitesOf roots ⊆ sitesOf others)
    {name : String} (hname : DeclaredIn roots name) : DeclaredIn others name := by
  obtain ⟨site, hsite, hdeclares⟩ := hname
  exact ⟨site, h hsite, hdeclares⟩

/-- The calls of a file that name something declared are the dependencies of its statements. -/
theorem Node.filterMap_dependency?_sites (roots : List Project) (f : Node) :
    f.sites.filterMap (fun site => site.dependency? roots) =
      (f.topLevelCalls.filter fun name => DeclaredIn roots name).map
        fun name => ⟨name, name, f.path⟩ := by
  unfold sites topLevelCalls
  cases f.source with
  | none => rfl
  | some s =>
    dsimp only
    rw [s.topLevelCalls_eq_filterMap, Source.statementCalls, List.filterMap_filterMap,
      List.filter_filterMap, List.map_filterMap, List.filterMap_map]
    rfl

namespace Dependency

/-- Every statement makes at most one dependency, and there are no others. -/
theorem among_eq_filterMap (roots : List Project) :
    among roots = (sitesOf roots).filterMap fun site => site.dependency? roots := by
  have hindex : (fun name => ((functionIndex (parsedFilesOf roots)).get? name).isSome) =
      fun name => decide (DeclaredIn roots name) := by
    funext name
    rw [Bool.eq_iff_iff, isSome_functionIndex_iff, decide_eq_true_eq, declaredIn_iff]
  unfold among ofFiles
  dsimp only
  rw [hindex, sitesOf_eq_parsed, List.filterMap_flatMap]
  apply List.flatMap_congr
  intro f _
  exact (f.filterMap_dependency?_sites roots).symm

theorem among_eq_flatMap_block (roots : List Project) :
    among roots = roots.flatMap (block roots) := by
  rw [among_eq_filterMap, sitesOf_eq_flatMap, List.filterMap_flatMap]
  rfl

/-- In another order of the projects every statement makes the dependency that it made. -/
theorem block_perm {roots others : List Project} (h : roots.Perm others) (p : Project) :
    block others p = block roots p := by
  have hsame : ∀ name, DeclaredIn others name ↔ DeclaredIn roots name := fun name =>
    ⟨.mono (sitesOf_perm h).symm.subset, .mono (sitesOf_perm h).subset⟩
  simp only [block, Site.dependency?, hsame]

theorem among_folder {folder : Node} (h : folder.kind = .folder) (roots : List Project) :
    among [.node folder roots] = among roots := by
  have hfiles : parsedFilesOf [.node folder roots] = parsedFilesOf roots := by
    unfold parsedFilesOf Project.parsedFiles
    rw [List.flatMap_singleton, Project.files_folder h, List.filter_flatMap]
  unfold among
  rw [hfiles]

/-- A dependency stays when there are more projects. -/
theorem dependency?_append (roots more : List Project) (site : Site) :
    site.dependency? roots = site.dependency? (roots ++ more) ∨ site.dependency? roots = none := by
  cases hsite : site.dependency? roots with
  | none => exact Or.inr rfl
  | some d =>
    left
    obtain ⟨name, hcalls, hdeclared, hd⟩ := (Site.dependency?_eq_some_iff roots site d).1 hsite
    have hmore : DeclaredIn (roots ++ more) name := by
      apply hdeclared.mono
      rw [sitesOf_append]
      exact List.subset_append_left _ _
    exact ((Site.dependency?_eq_some_iff _ site d).2 ⟨name, hcalls, hmore, hd⟩).symm

theorem among_sublist_append (roots more : List Project) :
    (among roots).Sublist (among (roots ++ more)) := by
  rw [among_eq_filterMap, among_eq_filterMap, sitesOf_append, List.filterMap_append]
  have hold := filterMap_sublist (l := sitesOf roots) fun site _ =>
    dependency?_append roots more site
  exact hold.trans (List.sublist_append_left _ _)

/-- File by file in reading order, and in the order of the text, every statement that calls an
identifier makes one dependency if some file of any of the projects declares the name, and there
are no others. So it does not matter whether the projects are given as a list or in one folder,
another order of the projects only moves what each of them makes, and further projects leave all
that was there, in its order. -/
theorem among_follows_declared_calls (roots : List Project) :
    among roots = (sitesOf roots).filterMap (fun site => site.dependency? roots) ∧
    (∀ site d, Site.dependency? roots site = some d ↔ ∃ name, site.Calls name ∧
      DeclaredIn roots name ∧ d = ⟨name, name, site.file.path⟩) ∧
    (∀ folder : Node, folder.kind = .folder → among [.node folder roots] = among roots) ∧
    (∀ others, roots.Perm others → among roots = roots.flatMap (block roots) ∧
      among others = others.flatMap (block roots)) ∧
    ∀ more, (among roots).Sublist (among (roots ++ more)) := by
  refine ⟨among_eq_filterMap roots, Site.dependency?_eq_some_iff roots,
    fun _ hfolder => among_folder hfolder roots, ?_, among_sublist_append roots⟩
  intro others hperm
  refine ⟨among_eq_flatMap_block roots, ?_⟩
  rw [among_eq_flatMap_block others]
  exact List.flatMap_congr fun p _ => block_perm hperm p

/-! ## A function that another project declares -/

def callingRows : List (Tree.Row Token) :=
  [⟨0, "program", 0, ⟨0, 0⟩, 10, true, false, false, false, none⟩,
    ⟨1, "expression_statement", 0, ⟨0, 0⟩, 4, true, false, false, false, none⟩,
    ⟨2, "call_expression", 0, ⟨0, 0⟩, 3, true, false, false, false, none⟩,
    ⟨3, "identifier", 0, ⟨0, 0⟩, 1, true, false, false, false, some .function⟩,
    ⟨3, "arguments", 1, ⟨0, 1⟩, 3, true, false, false, false, some .arguments⟩,
    ⟨4, "(", 1, ⟨0, 1⟩, 2, false, false, false, false, none⟩,
    ⟨4, ")", 2, ⟨0, 2⟩, 3, false, false, false, false, none⟩,
    ⟨2, ";", 3, ⟨0, 3⟩, 4, false, false, false, false, none⟩,
    ⟨1, "expression_statement", 5, ⟨1, 0⟩, 9, true, false, false, false, none⟩,
    ⟨2, "call_expression", 5, ⟨1, 0⟩, 8, true, false, false, false, none⟩,
    ⟨3, "identifier", 5, ⟨1, 0⟩, 6, true, false, false, false, some .function⟩,
    ⟨3, "arguments", 6, ⟨1, 1⟩, 8, true, false, false, false, some .arguments⟩,
    ⟨4, "(", 6, ⟨1, 1⟩, 7, false, false, false, false, none⟩,
    ⟨4, ")", 7, ⟨1, 2⟩, 8, false, false, false, false, none⟩,
    ⟨2, ";", 8, ⟨1, 3⟩, 9, false, false, false, false, none⟩]

def declaringRows : List (Tree.Row Token) :=
  [⟨0, "program", 0, ⟨0, 0⟩, 16, true, false, false, false, none⟩,
    ⟨1, "function_declaration", 0, ⟨0, 0⟩, 15, true, false, false, false, none⟩,
    ⟨2, "function", 0, ⟨0, 0⟩, 8, false, false, false, false, none⟩,
    ⟨2, "identifier", 9, ⟨0, 9⟩, 10, true, false, false, false, some .name⟩,
    ⟨2, "formal_parameters", 10, ⟨0, 10⟩, 12, true, false, false, false, none⟩,
    ⟨3, "(", 10, ⟨0, 10⟩, 11, false, false, false, false, none⟩,
    ⟨3, ")", 11, ⟨0, 11⟩, 12, false, false, false, false, none⟩,
    ⟨2, "statement_block", 13, ⟨0, 13⟩, 15, true, false, false, false, none⟩,
    ⟨3, "\x7b", 13, ⟨0, 13⟩, 14, false, false, false, false, none⟩,
    ⟨3, "\x7d", 14, ⟨0, 14⟩, 15, false, false, false, false, none⟩]

/-- A project of one file with this text, read as these rows. -/
def fileProject (path text : String) (rows : List (Tree.Row Token)) : Project :=
  .node
    { id := path, name := .text path, path := .text path, kind := .file,
      source := (Tree.ofRows? rows).map fun root =>
        ⟨.javascript, Utf8.encode text.toList, root⟩ } []

/-- Calls of `f` and `g`. -/
def callingProject (path : String) : Project := fileProject path "f();\ng();\n" callingRows

/-- A declaration of the function, whose name is one letter. -/
def declaringProject (path name : String) : Project :=
  fileProject path ("function " ++ name ++ "() \x7b\x7d\n") declaringRows

theorem among_follows_declared_calls_across :
    among [callingProject "a.js"] = [] ∧
      among [callingProject "a.js", declaringProject "b.js" "f"] = [⟨"f", "f", .text "a.js"⟩] ∧
      among [.node ⟨"0", .text "", .text "", .folder, none, none, []⟩
          [callingProject "a.js", declaringProject "b.js" "f"]] =
        [⟨"f", "f", .text "a.js"⟩] ∧
      [declaringProject "b.js" "f", callingProject "a.js"].flatMap
          (block [callingProject "a.js", declaringProject "b.js" "f"]) =
        among [declaringProject "b.js" "f", callingProject "a.js"] ∧
      [⟨"f", "f", .text "a.js"⟩].Sublist (among ([callingProject "a.js",
        declaringProject "b.js" "f"] ++ [declaringProject "c.js" "g"])) := by
  have hpair : among [callingProject "a.js", declaringProject "b.js" "f"] =
      [⟨"f", "f", .text "a.js"⟩] := by decide +kernel
  obtain ⟨-, -, hfolder, hperm, hmore⟩ :=
    among_follows_declared_calls [callingProject "a.js", declaringProject "b.js" "f"]
  refine ⟨by decide +kernel, hpair, ?_, ?_, ?_⟩
  · exact (hfolder _ rfl).trans hpair
  · exact (hperm _ (List.Perm.swap _ _ _)).2.symm
  · rw [← hpair]
    exact hmore [declaringProject "c.js" "g"]

end Dependency

end CodeAtlas
