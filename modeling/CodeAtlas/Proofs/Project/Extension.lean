-- Finding source files without their extensions. What counts as one is asked twice: of the suffix
-- of a name, and of the end of a path. In small letters the two agree, so that a file is found by
-- its path and by the path without the suffix, unless that in turn ends in an extension.
import CodeAtlas.Path
import CodeAtlas.Proofs.Path
import CodeAtlas.Proofs.Project.Files
import CodeAtlas.Register
import Mathlib.Data.List.Basic

namespace CodeAtlas

/-! ## Dropping an extension -/

namespace Extension

theorem before?_eq_some_iff (ending cs stem : List Char) :
    before? ending cs = some stem ↔ cs = stem ++ ending := by
  unfold before?
  constructor
  · intro h
    split at h
    · rename_i hsuffix
      obtain ⟨front, rfl⟩ := List.isSuffixOf_iff_suffix.1 hsuffix
      simpa using h
    · cases h
  · rintro rfl
    simp

/-- No known extension ends in another one. -/
theorem eq_of_suffix {ending other : List Char} (hknown : ending ∈ known) (hother : other ∈ known)
    {cs : List Char} (h : ending <:+ cs) (h' : other <:+ cs) : ending = other := by
  have hapart : ∀ a ∈ known, ∀ b ∈ known, a <:+ b → a = b := by decide
  rcases List.suffix_or_suffix_of_suffix h h' with hle | hle
  · exact hapart ending hknown other hother hle
  · exact (hapart other hother ending hknown hle).symm

theorem dropAtEnd_append {ending : List Char} (hknown : ending ∈ known) (stem : List Char) :
    dropAtEnd (stem ++ ending) = stem := by
  unfold dropAtEnd
  cases hfound : known.findSome? fun e => before? e (stem ++ ending) with
  | none =>
    have hnone := List.findSome?_eq_none_iff.1 hfound ending hknown
    rw [(before?_eq_some_iff ending _ stem).2 rfl] at hnone
    cases hnone
  | some found =>
    obtain ⟨other, hother, hbefore⟩ := List.exists_of_findSome?_eq_some hfound
    have hsplit := (before?_eq_some_iff other _ found).1 hbefore
    have hsame := eq_of_suffix hknown hother (List.suffix_append stem ending) ⟨found, hsplit.symm⟩
    subst hsame
    exact (List.append_cancel_right hsplit).symm

theorem dropAtEnd_cases (cs : List Char) :
    dropAtEnd cs = cs ∨ ∃ ending ∈ known, cs = dropAtEnd cs ++ ending := by
  by_cases h : ∃ ending ∈ known, ending <:+ cs
  · right
    obtain ⟨ending, hknown, stem, rfl⟩ := h
    exact ⟨ending, hknown, by rw [dropAtEnd_append hknown]⟩
  · left
    have hnone : known.findSome? (before? · cs) = none := by
      rw [List.findSome?_eq_none_iff]
      intro ending hknown
      by_contra hsome
      obtain ⟨stem, hstem⟩ := Option.ne_none_iff_exists'.1 hsome
      exact h ⟨ending, hknown, stem, ((before?_eq_some_iff ending cs stem).1 hstem).symm⟩
    unfold dropAtEnd
    rw [hnone, Option.getD_none]

theorem drop_lineFeed (cs : List Char) : drop (cs ++ ['\n']) = dropAtEnd cs ++ ['\n'] := by
  simp [drop]

theorem drop_of_getLast? {cs : List Char} (h : cs.getLast? ≠ some '\n') :
    drop cs = dropAtEnd cs := by
  unfold drop
  rw [if_neg h]

theorem drop_append {ending : List Char} (hknown : ending ∈ known) (stem : List Char) :
    drop (stem ++ ending) = stem := by
  have hletters : ∀ e ∈ known, e ≠ [] ∧ '\n' ∉ e := by decide
  obtain ⟨hne, hfeed⟩ := hletters ending hknown
  rw [drop_of_getLast?, dropAtEnd_append hknown]
  intro hlast
  rw [List.getLast?_append_of_ne_nil _ hne] at hlast
  exact hfeed (List.mem_of_getLast? hlast)

/-- What is dropped is an extension at the end, or before a line feed at the end. -/
theorem drop_cases (cs : List Char) :
    drop cs = cs ∨ (∃ ending ∈ known, cs = drop cs ++ ending) ∨
      ∃ line, ∃ ending ∈ known, drop cs = line ++ ['\n'] ∧ cs = line ++ ending ++ ['\n'] := by
  by_cases hlast : cs.getLast? = some '\n'
  · obtain ⟨line, rfl⟩ : ∃ line, cs = line ++ ['\n'] :=
      ⟨cs.dropLast, (List.dropLast_append_getLast? '\n' hlast).symm⟩
    rw [drop_lineFeed]
    rcases dropAtEnd_cases line with hsame | ⟨ending, hknown, hline⟩
    · left
      rw [hsame]
    · right
      right
      exact ⟨dropAtEnd line, ending, hknown, rfl, by rw [← hline]⟩
  · rw [drop_of_getLast? hlast]
    rcases dropAtEnd_cases cs with hsame | hdropped
    · exact Or.inl hsame
    · exact Or.inr (Or.inl hdropped)

/-! ## Paths with a stem -/

theorem strip_append {ending : String} (hknown : ending.toList ∈ known) (stem : String) :
    strip (stem ++ ending) = stem := by
  unfold strip
  rw [String.toList_append, drop_append hknown, String.ofList_toList]

theorem strip_cases (path : String) :
    strip path = path ∨ (∃ ending : String, ending.toList ∈ known ∧ path = strip path ++ ending) ∨
      ∃ line ending : String, ending.toList ∈ known ∧ strip path = line ++ "\n" ∧
        path = line ++ ending ++ "\n" := by
  have hstrip : (strip path).toList = drop path.toList := String.toList_ofList
  rcases drop_cases path.toList with
    hsame | ⟨ending, hknown, hpath⟩ | ⟨line, ending, hknown, hdrop, hpath⟩
  · exact Or.inl (String.toList_injective (hstrip.trans hsame))
  · refine Or.inr (Or.inl ⟨String.ofList ending, by rwa [String.toList_ofList], ?_⟩)
    apply String.toList_injective
    rw [String.toList_append, hstrip, String.toList_ofList]
    exact hpath
  · refine Or.inr (Or.inr ⟨String.ofList line, String.ofList ending,
      by rwa [String.toList_ofList], ?_, ?_⟩)
    · apply String.toList_injective
      rw [hstrip, hdrop, String.toList_append, String.toList_ofList]
      rfl
    · apply String.toList_injective
      rw [String.toList_append, String.toList_append, String.toList_ofList, String.toList_ofList]
      exact hpath

/-- The ways to write the path of a file with the stem: as it is, with the extension of a source
file in large or small letters, or with one before the line feed that the stem ends in. -/
inductive Spells (stem : String) : String → Prop where
  | bare : Spells stem stem
  | extended {ending : String} (hknown : ending.toLower.toList ∈ known) :
    Spells stem (stem ++ ending)
  | onLastLine {line ending : String} (hstem : stem = line ++ "\n")
    (hknown : ending.toList ∈ known) : Spells stem (line ++ ending ++ "\n")

theorem toList_toLower (s : String) : s.toLower.toList = s.toList.map Char.toLower :=
  String.toList_map

theorem toLower_of_mem_known {ending : String} (hknown : ending.toList ∈ known) :
    ending.toLower.toList ∈ known := by
  have hsmall : ∀ e ∈ known, e.map Char.toLower = e := by decide
  rwa [toList_toLower, hsmall _ hknown]

/-- Only such a path has the stem. -/
theorem spells_of_strip {path stem : String} (h : strip path = stem) : Spells stem path := by
  subst h
  rcases strip_cases path with
    hsame | ⟨ending, hknown, hpath⟩ | ⟨line, ending, hknown, hstem, hpath⟩
  · nth_rewrite 2 [← hsame]
    exact .bare
  · nth_rewrite 2 [hpath]
    exact .extended (toLower_of_mem_known hknown)
  · nth_rewrite 2 [hpath]
    exact .onLastLine hstem hknown

/-- The path ends in a known extension. -/
def Ends (path : String) : Prop := ∃ ending ∈ known, ending <:+ path.toList

instance (path : String) : Decidable (Ends path) :=
  inferInstanceAs (Decidable (∃ ending ∈ known, ending <:+ path.toList))

/-- The path ends in a known extension with a line feed after it. -/
def EndsBeforeFeed (path : String) : Prop :=
  ∃ ending ∈ known, ending ++ ['\n'] <:+ path.toList

instance (path : String) : Decidable (EndsBeforeFeed path) :=
  inferInstanceAs (Decidable (∃ ending ∈ known, ending ++ ['\n'] <:+ path.toList))

theorem strip_ne_self {path : String} (h : Ends path) : strip path ≠ path := by
  obtain ⟨ending, hknown, stem, hpath⟩ := h
  have hpos : ∀ e ∈ known, e.length ≠ 0 := by decide
  have hlength := hpos ending hknown
  intro heq
  have hdrop : drop path.toList = path.toList := by
    rw [← String.toList_ofList (l := drop path.toList)]
    exact congrArg String.toList heq
  rw [← hpath, drop_append hknown] at hdrop
  have hsize := congrArg List.length hdrop
  rw [List.length_append] at hsize
  omega

theorem strip_eq_self {path : String} (h : ¬ Ends path) (hfeed : ¬ EndsBeforeFeed path) :
    strip path = path := by
  rcases strip_cases path with hsame | ⟨ending, hknown, hpath⟩ | ⟨line, ending, hknown, -, hpath⟩
  · exact hsame
  · apply absurd _ h
    rw [hpath]
    exact ⟨ending.toList, hknown, (strip path).toList, String.toList_append.symm⟩
  · apply absurd _ hfeed
    refine ⟨ending.toList, hknown, line.toList, ?_⟩
    rw [hpath, String.toList_append, String.toList_append, List.append_assoc]
    rfl

end Extension

/-! ## The suffix of a path -/

namespace Path

/-- What follows the last slash of a path. -/
def lastSegment (path : String) : String :=
  String.ofList ((Segments.split '/' path.toList).getLastD [])

/-- The path without the suffix of its name. -/
def stem (path : String) : String :=
  String.ofList (path.toList.take (path.toList.length - (suffix path).toList.length))

theorem join_suffix (ss : List (List Char)) : ss.getLastD [] <:+ Segments.join '/' ss := by
  fun_induction Segments.join '/' ss with
  | case1 => exact List.suffix_rfl
  | case2 s => exact List.suffix_rfl
  | case3 s t rest ih =>
    rw [List.getLastD_cons, List.getLastD_cons] at *
    exact ih.trans ((List.suffix_cons '/' _).trans (List.suffix_append s _))

theorem lastSegment_suffix (path : String) : (lastSegment path).toList <:+ path.toList := by
  unfold lastSegment
  rw [String.toList_ofList]
  nth_rewrite 2 [← Segments.join_split '/' path.toList]
  exact join_suffix _

theorem splitLastDot_append {cs front rest : List Char}
    (h : splitLastDot cs = some (front, rest)) : front ++ rest = cs := by
  induction cs generalizing front with
  | nil => cases h
  | cons c cs ih =>
    unfold splitLastDot at h
    split at h
    · rename_i front' rest' hsplit
      cases h
      rw [List.cons_append, ih hsplit]
    · split at h
      · rename_i hdot
        cases h
        rw [hdot, List.nil_append]
      · cases h

theorem suffixOf_suffix (name : List Char) : suffixOf name <:+ name := by
  unfold suffixOf
  split
  · rename_i front rest hsplit
    split
    · exact List.nil_suffix
    · exact ⟨front, splitLastDot_append hsplit⟩
  · exact List.nil_suffix

/-- The segments of a path are those before the last slash and the one after it. -/
theorem exists_split (path : String) :
    ∃ folders, Segments.split '/' path.toList = folders ++ [(lastSegment path).toList] := by
  have hne := Segments.split_ne_nil '/' path.toList
  refine ⟨(Segments.split '/' path.toList).dropLast, ?_⟩
  unfold lastSegment
  rw [String.toList_ofList, List.getLastD_eq_getLast?, List.getLast?_eq_some_getLast hne,
    Option.getD_some, List.dropLast_append_getLast hne]

theorem slash_notMem_lastSegment (path : String) : '/' ∉ (lastSegment path).toList := by
  obtain ⟨folders, hsplit⟩ := exists_split path
  have hmem : (lastSegment path).toList ∈ Segments.split '/' path.toList := by
    rw [hsplit]
    exact List.mem_append_right _ (List.mem_singleton_self _)
  exact Segments.notMem_of_mem_split hmem

/-- If the text after the last slash can be a component, it is the name of the path. -/
theorem name_eq_lastSegment {path : String} (h : IsComponent (lastSegment path)) :
    name path = lastSegment path := by
  obtain ⟨folders, hsplit⟩ := exists_split path
  have hkept : [(lastSegment path).toList].filter (fun s => s ≠ [] && s ≠ ['.']) =
      [(lastSegment path).toList] := List.filter_cons_of_pos (isKept_of_isComponent h)
  unfold name components
  rw [hsplit, List.filter_append, hkept, List.map_append, List.map_singleton,
    String.ofList_toList, List.getLastD_concat]

theorem suffix_lastSegment {path : String} (h : IsComponent (lastSegment path)) :
    suffix (lastSegment path) = suffix path := by
  unfold suffix
  rw [name_of_isComponent h, name_eq_lastSegment h]

/-- A path is its stem and its suffix. -/
theorem stem_append_suffix {path : String} (h : IsComponent (lastSegment path)) :
    stem path ++ suffix path = path := by
  have hsuffix : (suffix path).toList <:+ path.toList := by
    unfold suffix
    rw [String.toList_ofList, name_eq_lastSegment h]
    exact (suffixOf_suffix _).trans (lastSegment_suffix path)
  obtain ⟨front, hfront⟩ := hsuffix
  apply String.toList_injective
  unfold stem
  rw [String.toList_append, String.toList_ofList, ← hfront, List.length_append, Nat.add_sub_cancel,
    List.take_left]

end Path

/-! ## Source files -/

/-- A name without slashes that is the name of a source file can be a component of a path. -/
theorem isComponent_of_isSourceFile {name : String} (hslash : '/' ∉ name.toList)
    (h : isSourceFile name = true) : Path.IsComponent name := by
  refine ⟨?_, ?_, hslash⟩
  · rintro rfl
    exact absurd h (by decide)
  · rintro rfl
    exact absurd h (by decide)

/-- The suffix of a source file is a known extension, in large or small letters. -/
theorem toLower_suffix_mem_known {name : String} (h : isSourceFile name = true) :
    (Path.suffix name).toLower.toList ∈ Extension.known := by
  have hkeys : ∀ key ∈ Dialect.suffixes.map (·.1), key.toList ∈ Extension.known := by decide
  apply hkeys
  by_contra hkey
  unfold isSourceFile Dialect.ofPath? at h
  rw [← Extension.toList_toLower, String.ofList_toList] at h
  rw [(Register.lookup_eq_none_iff Dialect.suffixes (Path.suffix name).toLower).2 hkey] at h
  cases h

/-- A search that only one thing can end finds it. -/
theorem find?_eq_some_of_unique {α : Type} {as : List α} {test : α → Bool} {a : α} (ha : a ∈ as)
    (htest : test a = true) (hunique : ∀ b ∈ as, test b = true → b = a) :
    as.find? test = some a := by
  cases hfound : as.find? test with
  | none => exact absurd htest (List.find?_eq_none.1 hfound a ha)
  | some b => rw [hunique b (List.mem_of_find?_eq_some hfound) (List.find?_some hfound)]

namespace Project

theorem matchesPath_iff {f : Node} {path : String} (hpath : f.path = .text path) (target : String) :
    f.matchesPath target = true ↔ Extension.strip path = Extension.strip target := by
  unfold Node.matchesPath
  rw [hpath]
  simp [Json.text?]

theorem strip_eq_stem {path : String} (hsource : isSourceFile (Path.lastSegment path) = true)
    (hsmall : (Path.suffix path).toLower = Path.suffix path) :
    Extension.strip path = Path.stem path := by
  have hcomponent := isComponent_of_isSourceFile (Path.slash_notMem_lastSegment path) hsource
  have hknown := toLower_suffix_mem_known hsource
  rw [Path.suffix_lastSegment hcomponent, hsmall] at hknown
  nth_rewrite 1 [← Path.stem_append_suffix hcomponent]
  exact Extension.strip_append hknown _

/-- A source file with a suffix in small letters that does not lie below another file is found by
its path, if no other file has its stem with or without an extension. By the stem it is found as
well, but not if the stem itself ends in an extension: that is left out of what is looked for. -/
theorem source_file_found_by_stem (p : Project) (q : Node) (path : String)
    (htexts : ∀ f ∈ p.files, f.path.isText = true) (hq : q ∈ p.openFiles)
    (hpath : q.path = .text path) (hname : q.name = .text (Path.lastSegment path))
    (hsource : isSourceFile q.name.shown = true)
    (hsmall : (Path.suffix path).toLower = Path.suffix path)
    (halone : ∀ f ∈ p.files, f ≠ q → ¬ Extension.Spells (Path.stem path) f.path.shown) :
    (p.searchFault? path = none ∧ p.searchFault? (Path.stem path) = none) ∧
    p.find? path = some q ∧
    (¬ Extension.Ends (Path.stem path) → ¬ Extension.EndsBeforeFeed (Path.stem path) →
      p.find? (Path.stem path) = some q) ∧
    (Extension.Ends (Path.stem path) → p.find? (Path.stem path) ≠ some q) := by
  rw [hname] at hsource
  have hstrip : Extension.strip path = Path.stem path := strip_eq_stem hsource hsmall
  have hfound : p.find? path = some q := by
    rw [find?_eq_find?_openFiles]
    apply find?_eq_some_of_unique hq ((matchesPath_iff hpath path).2 rfl)
    intro f hf hmatches
    by_contra hne
    have hfile := (openFiles_sublist_files p).subset hf
    obtain ⟨other, hother⟩ := Label.text_of_isText (htexts f hfile)
    apply halone f hfile hne
    rw [hother]
    apply Extension.spells_of_strip
    exact ((matchesPath_iff hother path).1 hmatches).trans hstrip
  refine ⟨⟨searchFault?_eq_none htexts _, searchFault?_eq_none htexts _⟩, hfound, ?_, ?_⟩
  · intro hends hfeed
    have hself := Extension.strip_eq_self hends hfeed
    -- the search looks for the same text whether the suffix is there or not
    have hsame : p.find? (Path.stem path) = p.find? path := by
      rw [find?_eq_find?_openFiles, find?_eq_find?_openFiles]
      simp only [Node.matchesPath, hself, hstrip]
    rw [hsame, hfound]
  · intro hends hstem
    rw [find?_eq_find?_openFiles] at hstem
    have hmatches := List.find?_some hstem
    rw [matchesPath_iff hpath, hstrip] at hmatches
    exact Extension.strip_ne_self hends hmatches.symm

/-! ## Files that are found, and files that are not -/

/-- A file that has not been read, named as the text after the last slash of its path. -/
def unreadFile (path : String) : Node where
  id := path
  name := .text (Path.lastSegment path)
  path := .text path
  kind := .file

/-- A folder with these things in it. -/
def folderAt (path : String) (inside : List Project) : Project :=
  .node ⟨path, .text path, .text path, .folder, none, none, []⟩ inside

/-- A source file, its test and its styles in one folder, and a page above. -/
def crowdedProject : Project :=
  folderAt ""
    [.node (unreadFile "README.md") [],
      folderAt "src" [.node (unreadFile "src/util.css") [],
        .node (unreadFile "src/util.test.ts") [], .node (unreadFile "src/util.ts") []]]

theorem not_spells_of_rest {stem path : String} (hfeed : stem.toList.getLast? ≠ some '\n')
    (hrest : (path.toList.drop stem.toList.length).map Char.toLower ∉ [] :: Extension.known) :
    ¬ Extension.Spells stem path := by
  rintro (_ | hknown | ⟨rfl, -⟩)
  · simp at hrest
  · apply hrest
    rw [String.toList_append, List.drop_left, ← Extension.toList_toLower]
    exact List.mem_cons_of_mem _ hknown
  · apply hfeed
    rw [String.toList_append]
    exact List.getLast?_concat

theorem source_file_found_by_stem_crowded :
    crowdedProject.openFiles =
        ["README.md", "src/util.css", "src/util.test.ts", "src/util.ts"].map unreadFile ∧
      isSourceFile "util.ts" = true ∧ Path.stem "src/util.ts" = "src/util" ∧
      crowdedProject.find? "src/util.ts" = some (unreadFile "src/util.ts") ∧
      crowdedProject.find? "src/util" = some (unreadFile "src/util.ts") := by
  have hstem : Path.stem "src/util.ts" = "src/util" := by decide +kernel
  have hfiles : crowdedProject.files =
      ["README.md", "src/util.css", "src/util.test.ts", "src/util.ts"].map unreadFile := rfl
  have halone : ∀ f ∈ crowdedProject.files, f ≠ unreadFile "src/util.ts" →
      ¬ Extension.Spells (Path.stem "src/util.ts") f.path.shown := by
    rw [hfiles, hstem]
    simp only [List.map_cons, List.map_nil, List.forall_mem_cons]
    refine ⟨fun _ => not_spells_of_rest ?_ ?_, fun _ => not_spells_of_rest ?_ ?_,
      fun _ => not_spells_of_rest ?_ ?_, fun hne => absurd rfl hne, by simp⟩ <;> decide +kernel
  have hopen : crowdedProject.openFiles = crowdedProject.files := rfl
  obtain ⟨-, hpath, hfound, -⟩ := source_file_found_by_stem crowdedProject
    (unreadFile "src/util.ts") "src/util.ts" (by decide +kernel) (by simp [hopen, hfiles]) rfl rfl
    (by decide +kernel) (by decide +kernel) halone
  rw [hstem] at hfound
  exact ⟨rfl, by decide +kernel, hstem, hpath, hfound (by decide +kernel) (by decide +kernel)⟩

/-- Four source files that are not found by their stems: the stem of the first ends in an extension
in turn, the suffix of the second has large letters, the stem of the third is left of another path
that ends in a line feed, and the last lies below another file. -/
theorem stem_misses_file :
    (isSourceFile "a.ts.ts" = true ∧ Path.stem "a.ts.ts" = "a.ts" ∧
      (folderAt "" [.node (unreadFile "a.ts.ts") []]).find? "a.ts" = none) ∧
    (isSourceFile "a.TS" = true ∧ Path.stem "a.TS" = "a" ∧
      (folderAt "" [.node (unreadFile "a.TS") []]).find? "a" = none) ∧
    (isSourceFile "a\n.ts" = true ∧ Path.stem "a\n.ts" = "a\n" ∧
      (folderAt "" [.node (unreadFile "a.ts\n") [], .node (unreadFile "a\n.ts") []]).find? "a\n" =
        some (unreadFile "a.ts\n")) ∧
    (isSourceFile "b.ts" = true ∧ Path.stem "b.ts" = "b" ∧
      (folderAt "" [.node (unreadFile "a.md") [.node (unreadFile "b.ts") []]]).find? "b" =
        none) := by
  refine ⟨⟨?_, ?_, rfl⟩, ⟨?_, ?_, rfl⟩, ⟨?_, ?_, rfl⟩, ⟨?_, ?_, rfl⟩⟩ <;> decide +kernel

end Project

end CodeAtlas
