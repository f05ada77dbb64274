-- Addresses as texts. Where no line feed is in it, an address names a repository exactly if it is
-- the site, an owner, a repository, and nothing or a path after them, and there is only one way to
-- cut it. So the parts come back from the address that is built of them.
import CodeAtlas.Proofs.Path
import CodeAtlas.Web.Client

namespace CodeAtlas.Address

open Segments (Cut cut_takeWhile)

/-! ## Slashes at the end -/

/-- Drops one slash at the end. -/
def dropSlash (cs : List Char) : List Char := if cs.getLast? = some '/' then cs.dropLast else cs

theorem dropSlash_append (cs : List Char) : dropSlash (cs ++ ['/']) = cs := by
  simp [dropSlash]

theorem dropSlash_of_getLast? {cs : List Char} (h : cs.getLast? ≠ some '/') : dropSlash cs = cs :=
  if_neg h

theorem dropSlash_cons {c : Char} {cs : List Char} (h : c :: cs ≠ ['/']) :
    dropSlash (c :: cs) = c :: dropSlash cs := by
  cases cs with
  | nil =>
    have hc : c ≠ '/' := fun hc => h (by rw [hc])
    simp [dropSlash, hc]
  | cons d ds =>
    unfold dropSlash
    rw [List.getLast?_cons_cons, List.dropLast_cons_cons]
    split <;> rfl

/-! ## Ways to cut -/

/-- The last way to cut a front off is as long as can be. After any other one the next character
would pass as well. -/
theorem exists_fronts_eq (p : Char → Bool) (cs : List Char) :
    ∃ shorter, fronts p cs = shorter ++ [(cs.takeWhile p, cs.dropWhile p)] ∧
      shorter.length = (cs.takeWhile p).length ∧
      ∀ x ∈ shorter, ∃ c ∈ cs, p c = true ∧ ∃ more, x.2 = c :: more := by
  induction cs with
  | nil => exact ⟨[], rfl, rfl, by simp⟩
  | cons c cs ih =>
    obtain ⟨shorter, hfronts, hlength, hshorter⟩ := ih
    by_cases hc : p c = true
    · refine ⟨([], c :: cs) :: shorter.map fun x => (c :: x.1, x.2), ?_, ?_, ?_⟩
      · simp [fronts, hc, hfronts]
      · simp [hc, hlength]
      · intro x hx
        rcases List.mem_cons.1 hx with rfl | hx
        · exact ⟨c, List.mem_cons_self, hc, cs, rfl⟩
        · obtain ⟨y, hy, rfl⟩ := List.mem_map.1 hx
          obtain ⟨d, hd, hpass, hmore⟩ := hshorter y hy
          exact ⟨d, List.mem_cons_of_mem c hd, hpass, hmore⟩
    · exact ⟨[], by simp [fronts, hc], by simp [hc], by simp⟩

variable {α : Type} {cs part rest : List Char}

theorem exists_parts_eq (h : Cut cs part rest) :
    ∃ shorter, parts cs = shorter ++ (if part = [] then [] else [(part, rest)]) ∧
      ∀ x ∈ shorter, ∃ c ∈ cs, c ≠ '/' ∧ ∃ more, x.2 = c :: more := by
  obtain ⟨shorter, hfronts, hlength, hshorter⟩ := exists_fronts_eq (· ≠ '/') cs
  rw [h.takeWhile_eq, h.dropWhile_eq] at hfronts
  rw [h.takeWhile_eq] at hlength
  simp only [decide_eq_true_eq] at hshorter
  unfold parts
  rw [hfronts]
  cases shorter with
  | nil =>
    rw [List.length_nil, eq_comm, List.length_eq_zero_iff] at hlength
    exact ⟨[], by simp [hlength], by simp⟩
  | cons x shorter =>
    have hne : part ≠ [] := by
      rintro rfl
      cases hlength
    exact ⟨shorter, by simp [hne], fun y hy => hshorter y (List.mem_cons_of_mem x hy)⟩

/-- Where nothing comes of a part after which no slash follows, only the longest part is left, from
whichever end the search starts. -/
theorem findSome?_parts (h : Cut cs part rest) {f : List Char × List Char → Option α}
    (hf : ∀ c ∈ cs, c ≠ '/' → ∀ part more, f (part, c :: more) = none) :
    (parts cs).findSome? f = (if part = [] then none else f (part, rest)) ∧
      (parts cs).reverse.findSome? f = if part = [] then none else f (part, rest) := by
  obtain ⟨shorter, hparts, hshorter⟩ := exists_parts_eq h
  have hnone : ∀ x ∈ shorter, f x = none := by
    rintro ⟨part, rest⟩ hx
    obtain ⟨c, hc, hslash, more, rfl⟩ := hshorter _ hx
    exact hf c hc hslash part more
  have hforward : shorter.findSome? f = none := List.findSome?_eq_none_iff.2 hnone
  have hbackward : shorter.reverse.findSome? f = none := by
    rw [List.findSome?_eq_none_iff]
    exact fun x hx => hnone x (List.mem_reverse.1 hx)
  rw [hparts, List.reverse_append, List.findSome?_append, List.findSome?_append, hforward,
    hbackward]
  by_cases hpart : part = [] <;> simp [hpart]

/-- The shortest path is all there is but for one slash at the end. -/
theorem findSome?_fronts_of_noFeed (h : '\n' ∉ cs) (g : List Char → α) :
    (fronts (· ≠ '\n') cs).findSome? (fun x => if x.2 ∈ endings then some (g x.1) else none) =
      some (g (dropSlash cs)) := by
  induction cs generalizing g with
  | nil => rfl
  | cons c cs ih =>
    simp only [List.mem_cons, not_or] at h
    have hc : decide (c ≠ '\n') = true := decide_eq_true fun hc => h.1 hc.symm
    by_cases hslash : c :: cs = ['/']
    · rw [hslash]
      rfl
    · have hend : c :: cs ∉ endings := by
        intro hmem
        simp only [endings, List.mem_cons, List.not_mem_nil, or_false] at hmem
        rcases hmem with hnil | hfeed | hsame | hboth
        · cases hnil
        · exact h.1 (List.cons.inj hfeed).1.symm
        · exact hslash hsame
        · exact h.2 (by rw [(List.cons.inj hboth).2]; exact List.mem_cons_self)
      rw [fronts, if_pos hc, List.findSome?_cons, if_neg hend, List.findSome?_map,
        dropSlash_cons hslash]
      exact ih h.2 fun path => g (c :: path)

theorem exists_findSome?_paths (hopens : rest = [] ∨ ∃ more, rest = '/' :: more)
    (hfeed : '\n' ∉ rest) (g : Option (List Char) → α) :
    ∃ path, path.getD [] = dropSlash (rest.drop 1) ∧
      (paths rest).findSome? (fun x => if x.2 ∈ endings then some (g x.1) else none) =
        some (g path) := by
  rcases hopens with rfl | ⟨more, rfl⟩
  · exact ⟨none, rfl, rfl⟩
  · refine ⟨some (dropSlash more), rfl, ?_⟩
    have hfound := findSome?_fronts_of_noFeed (fun hmem => hfeed (List.mem_cons_of_mem _ hmem))
      fun path => g (some path)
    rw [paths, List.findSome?_append, List.findSome?_map, Option.or_eq_some_iff]
    exact Or.inl hfound

/-! ## Addresses -/

/-- A text that can stand between slashes. -/
def IsPart (s : String) : Prop := s ≠ "" ∧ '/' ∉ s.toList

instance (s : String) : Decidable (IsPart s) := inferInstanceAs (Decidable (_ ∧ _))

/-- The address of a repository, and what follows it. -/
def urlOf (owner repo rest : String) : String :=
  "https://github.com/" ++ owner ++ "/" ++ repo ++ rest

/-- The address is that of the repository, and what follows it is nothing, or a slash and more. -/
structure Spelled (url owner repo rest : String) : Prop where
  append : url = urlOf owner repo rest
  owner : IsPart owner
  repo : IsPart repo
  opens : rest = "" ∨ ∃ more, rest = "/" ++ more

/-- The path in what follows the repository. Neither the slash in front of it nor one at its end
is part of it. -/
def pathIn (rest : String) : String := String.ofList (dropSlash (rest.toList.drop 1))

/-- A repository ends at the next slash or at the end. -/
theorem exists_findSome?_repo {repo : List Char} (hrepo : Cut cs repo rest) (hfeed : '\n' ∉ cs)
    (g : List Char → Option (List Char) → α) :
    ∃ path, path.getD [] = dropSlash (rest.drop 1) ∧
      ((parts cs).findSome? fun x => (paths x.2).findSome? fun y =>
        if y.2 ∈ endings then some (g x.1 y.1) else none) =
          if repo = [] then none else some (g repo path) := by
  have hrest : '\n' ∉ rest := by
    intro hmem
    apply hfeed
    rw [hrepo.append]
    exact List.mem_append_right _ hmem
  obtain ⟨path, hpath, hfound⟩ := exists_findSome?_paths hrepo.opens hrest (g repo)
  refine ⟨path, hpath, ?_⟩
  rw [(findSome?_parts hrepo ?_).1, hfound]
  intro c hc hslash part more
  have hpaths : paths (c :: more) = [(none, c :: more)] := by
    unfold paths
    split
    · rename_i heq
      exact absurd (List.cons.inj heq).1 hslash
    · rfl
  have hend : c :: more ∉ endings := by
    have hne : c ≠ '\n' := fun heq => hfeed (heq ▸ hc)
    simp [endings, hslash, hne]
  simp [hpaths, hend]

theorem exists_groups?_eq {url tail owner after repo rest : List Char} (hurl : url = site ++ tail)
    (howner : Cut tail owner after) (hrepo : Cut (after.drop 1) repo rest) (hfeed : '\n' ∉ url) :
    ∃ path, path.getD [] = dropSlash (rest.drop 1) ∧
      groups? url = if owner = [] ∨ repo = [] then none else some (owner, repo, path) := by
  have hafter : '\n' ∉ after.drop 1 := by
    intro hmem
    apply hfeed
    rw [hurl, howner.append]
    exact List.mem_append_right _ (List.mem_append_right _ (List.mem_of_mem_drop hmem))
  obtain ⟨path, hpath, hfound⟩ := exists_findSome?_repo hrepo hafter fun repo path =>
    (owner, repo, path)
  refine ⟨path, hpath, ?_⟩
  have hstart : site.isPrefixOf? url = some tail :=
    List.isPrefixOf?_eq_some_iff_append_eq.2 hurl.symm
  unfold groups?
  rw [hstart]
  simp only [Option.bind_eq_bind, Option.bind_some]
  -- no slash follows an owner that is cut short
  rw [(findSome?_parts howner ?_).2]
  · by_cases hno : owner = []
    · simp [hno]
    · rw [if_neg hno]
      rcases howner.opens with rfl | ⟨more, rfl⟩
      · have hnr : repo = [] := (List.append_eq_nil_iff.1 hrepo.append.symm).1
        simp [hnr]
      · simp only [hno, false_or, ← hfound]
        rfl
  · intro c _ hslash part more
    have hnone : ['/'].isPrefixOf? (c :: more) = none := by simp [List.isPrefixOf?, hslash.symm]
    simp [hnone]

theorem parse_of_cuts {url : String} {tail owner after repo rest : List Char}
    (hurl : url.toList = site ++ tail) (howner : Cut tail owner after)
    (hrepo : Cut (after.drop 1) repo rest) (hfeed : '\n' ∉ url.toList) :
    parse url = if owner = [] ∨ repo = [] then .error ⟨url⟩ else .ok
      ⟨String.ofList owner, String.ofList repo, String.ofList (dropSlash (rest.drop 1))⟩ := by
  obtain ⟨path, hpath, hgroups⟩ := exists_groups?_eq hurl howner hrepo hfeed
  unfold parse
  rw [hgroups]
  by_cases hparts : owner = [] ∨ repo = [] <;> simp [hparts, hpath]

theorem parse_of_noSite {url : String} (h : ¬ site <+: url.toList) : parse url = .error ⟨url⟩ := by
  have hstart : site.isPrefixOf? url.toList = none := by
    cases hrest : site.isPrefixOf? url.toList with
    | none => rfl
    | some rest =>
      exact absurd ⟨rest, List.isPrefixOf?_eq_some_iff_append_eq.1 hrest⟩ h
  unfold parse groups?
  rw [hstart]
  rfl

theorem toList_ne_nil {s : String} (h : IsPart s) : s.toList ≠ [] := by
  intro hnil
  apply h.1
  rw [← String.ofList_toList (s := s), hnil]

theorem isPart_ofList {cs : List Char} (hne : cs ≠ []) (hslash : '/' ∉ cs) :
    IsPart (String.ofList cs) := by
  refine ⟨?_, by rwa [String.toList_ofList]⟩
  intro hempty
  apply hne
  rw [← String.toList_ofList (l := cs), hempty]
  rfl

theorem toList_slash : "/".toList = ['/'] := rfl

theorem toList_urlOf (owner repo rest : String) :
    (urlOf owner repo rest).toList =
      site ++ (owner.toList ++ '/' :: (repo.toList ++ rest.toList)) := by
  unfold urlOf
  simp only [String.toList_append, List.append_assoc]
  rw [toList_slash]
  rfl

theorem notMem_urlOf_iff (owner repo rest : String) :
    '\n' ∉ (urlOf owner repo rest).toList ↔
      '\n' ∉ owner.toList ∧ '\n' ∉ repo.toList ∧ '\n' ∉ rest.toList := by
  have hsite : '\n' ∉ site := by decide
  simp [toList_urlOf, hsite]

theorem Spelled.parse_eq {url owner repo rest : String} (h : Spelled url owner repo rest)
    (hfeed : '\n' ∉ url.toList) : parse url = .ok ⟨owner, repo, pathIn rest⟩ := by
  have hopens : rest.toList = [] ∨ ∃ more, rest.toList = '/' :: more := by
    rcases h.opens with rfl | ⟨more, rfl⟩
    · exact Or.inl rfl
    · exact Or.inr ⟨more.toList, by rw [String.toList_append]; rfl⟩
  have hurl : url.toList = site ++ (owner.toList ++ '/' :: (repo.toList ++ rest.toList)) :=
    (congrArg String.toList h.append).trans (toList_urlOf owner repo rest)
  have howner : Cut (owner.toList ++ '/' :: (repo.toList ++ rest.toList)) owner.toList
      ('/' :: (repo.toList ++ rest.toList)) := ⟨rfl, h.owner.2, Or.inr ⟨_, rfl⟩⟩
  have hrepo : Cut (repo.toList ++ rest.toList) repo.toList rest.toList := ⟨rfl, h.repo.2, hopens⟩
  rw [parse_of_cuts hurl howner hrepo hfeed, if_neg]
  · simp only [String.ofList_toList, pathIn]
  · rintro (hnil | hnil)
    · exact toList_ne_nil h.owner hnil
    · exact toList_ne_nil h.repo hnil

theorem spelled_of_cuts {url : String} {tail owner after repo rest : List Char}
    (hurl : url.toList = site ++ tail) (howner : Cut tail owner after)
    (hrepo : Cut (after.drop 1) repo rest) (hne : owner ≠ []) (hne' : repo ≠ []) :
    Spelled url (String.ofList owner) (String.ofList repo) (String.ofList rest) := by
  -- without a slash after the owner nothing would be left for the repository
  obtain ⟨more, rfl⟩ : ∃ more, after = '/' :: more := by
    rcases howner.opens with rfl | hslash
    · exact absurd (List.append_eq_nil_iff.1 hrepo.append.symm).1 hne'
    · exact hslash
  refine ⟨?_, isPart_ofList hne howner.noSlash, isPart_ofList hne' hrepo.noSlash, ?_⟩
  · apply String.toList_injective
    rw [toList_urlOf, hurl, howner.append]
    simp only [String.toList_ofList, ← hrepo.append, List.drop_one, List.tail_cons]
  · rcases hrepo.opens with rfl | ⟨more, rfl⟩
    · exact Or.inl rfl
    · exact Or.inr ⟨String.ofList more, String.ofList_cons⟩

theorem exists_spelled_of_parse {url : String} {a : Address} (hfeed : '\n' ∉ url.toList)
    (h : parse url = .ok a) : ∃ rest, Spelled url a.owner a.repo rest := by
  by_cases hsite : site <+: url.toList
  · obtain ⟨tail, hurl⟩ := hsite
    have howner := cut_takeWhile tail
    have hrepo := cut_takeWhile ((tail.dropWhile (· ≠ '/')).drop 1)
    rw [parse_of_cuts hurl.symm howner hrepo hfeed] at h
    split at h
    · cases h
    · rename_i hparts
      rw [not_or] at hparts
      cases h
      exact ⟨_, spelled_of_cuts hurl.symm howner hrepo hparts.1 hparts.2⟩
  · rw [parse_of_noSite hsite] at h
    cases h

theorem exists_parse_iff {url : String} (hfeed : '\n' ∉ url.toList) :
    (∃ a, parse url = .ok a) ↔ ∃ owner repo rest, Spelled url owner repo rest := by
  constructor
  · rintro ⟨a, ha⟩
    obtain ⟨rest, hspelled⟩ := exists_spelled_of_parse hfeed ha
    exact ⟨a.owner, a.repo, rest, hspelled⟩
  · rintro ⟨owner, repo, rest, hspelled⟩
    exact ⟨_, hspelled.parse_eq hfeed⟩

theorem isValid_iff (url : String) : isValid url = true ↔ ∃ a, parse url = .ok a := by
  unfold isValid
  cases parse url <;> simp [Except.isOk, Except.toBool]

theorem parse_eq_error {url : String} {e : BadAddress} (h : parse url = .error e) :
    e = ⟨url⟩ := by
  unfold parse at h
  split at h
  · cases h
  · exact (Except.error.inj h).symm

theorem pathIn_slash {path : String} (h : path.toList.getLast? ≠ some '/') :
    pathIn ("/" ++ path) = path := by
  unfold pathIn
  rw [String.toList_append, toList_slash, List.singleton_append, List.drop_one, List.tail_cons,
    dropSlash_of_getLast? h, String.ofList_toList]

theorem pathIn_slashes (path : String) : pathIn ("/" ++ path ++ "/") = path := by
  unfold pathIn
  rw [String.toList_append, String.toList_append, toList_slash, List.append_assoc,
    List.singleton_append, List.drop_one, List.tail_cons, dropSlash_append, String.ofList_toList]

/-- Where there is no line feed, an address names a repository exactly if it is the site, an owner,
a slash, a repository, and nothing or a slash with more behind it. The owner and the repository are
these, and the path is the rest without the slash in front and without one at the end. So the
address that is built of an owner, a repository and a path that does not end in a slash gives them
back, with one slash after it or none. -/
theorem parse_reads_spelled :
    (∀ url : String, '\n' ∉ url.toList →
      ((∃ a, parse url = .ok a) ↔ ∃ owner repo rest, Spelled url owner repo rest) ∧
      (∀ owner repo rest, Spelled url owner repo rest →
        parse url = .ok ⟨owner, repo, pathIn rest⟩) ∧
      (isValid url = true ↔ ∃ owner repo rest, Spelled url owner repo rest) ∧
      ∀ e, parse url = .error e → e = ⟨url⟩) ∧
    ∀ owner repo path : String, IsPart owner → IsPart repo → path.toList.getLast? ≠ some '/' →
      '\n' ∉ (urlOf owner repo ("/" ++ path)).toList →
      parse (urlOf owner repo ("/" ++ path)) = .ok ⟨owner, repo, path⟩ ∧
      parse (urlOf owner repo ("/" ++ path ++ "/")) = .ok ⟨owner, repo, path⟩ ∧
      (path = "" → parse (urlOf owner repo path) = .ok ⟨owner, repo, path⟩) := by
  constructor
  · intro url hfeed
    exact ⟨exists_parse_iff hfeed, fun owner repo rest h => h.parse_eq hfeed,
      (isValid_iff url).trans (exists_parse_iff hfeed), fun e => parse_eq_error⟩
  · intro owner repo path howner hrepo hlast hfeed
    obtain ⟨hownerFeed, hrepoFeed, hpathFeed⟩ := (notMem_urlOf_iff _ _ _).1 hfeed
    have hclosed : '\n' ∉ (urlOf owner repo ("/" ++ path ++ "/")).toList := by
      rw [notMem_urlOf_iff, String.toList_append, List.mem_append, not_or]
      exact ⟨hownerFeed, hrepoFeed, hpathFeed, by decide⟩
    have hopen : Spelled (urlOf owner repo ("/" ++ path)) owner repo ("/" ++ path) :=
      ⟨rfl, howner, hrepo, Or.inr ⟨path, rfl⟩⟩
    have hshut : Spelled (urlOf owner repo ("/" ++ path ++ "/")) owner repo ("/" ++ path ++ "/") :=
      ⟨rfl, howner, hrepo, Or.inr ⟨path ++ "/", String.append_assoc⟩⟩
    refine ⟨?_, ?_, ?_⟩
    · rw [hopen.parse_eq hfeed, pathIn_slash hlast]
    · rw [hshut.parse_eq hclosed, pathIn_slashes]
    · rintro rfl
      have hbare : Spelled (urlOf owner repo "") owner repo "" := ⟨rfl, howner, hrepo, Or.inl rfl⟩
      rw [hbare.parse_eq ((notMem_urlOf_iff _ _ _).2 ⟨hownerFeed, hrepoFeed, by decide⟩)]
      rfl

theorem parse_reads_spelled_doubled :
    Spelled "https://github.com/octo/app//x//" "octo" "app" "//x//" ∧
      parse "https://github.com/octo/app//x//" = .ok ⟨"octo", "app", "/x/"⟩ ∧
      isValid "https://github.com/octo/app//x//" = true ∧
      parse (urlOf "octo" "app" "/src/utils") = .ok ⟨"octo", "app", "src/utils"⟩ ∧
      parse (urlOf "octo" "app" "/src/utils/") = .ok ⟨"octo", "app", "src/utils"⟩ ∧
      parse (urlOf "octo" "app" "") = .ok ⟨"octo", "app", ""⟩ := by
  have hspelled : Spelled "https://github.com/octo/app//x//" "octo" "app" "//x//" :=
    ⟨by decide +kernel, by decide, by decide, Or.inr ⟨"/x//", by decide +kernel⟩⟩
  have hpath : pathIn "//x//" = "/x/" := by decide +kernel
  obtain ⟨-, hparse, hvalid, -⟩ :=
    parse_reads_spelled.1 "https://github.com/octo/app//x//" (by decide +kernel)
  have hbuilt := parse_reads_spelled.2 "octo" "app" "src/utils" (by decide) (by decide)
    (by decide +kernel) (by decide +kernel)
  have hbare := parse_reads_spelled.2 "octo" "app" "" (by decide) (by decide) (by decide +kernel)
    (by decide +kernel)
  exact ⟨hspelled, hpath ▸ hparse _ _ _ hspelled, hvalid.2 ⟨_, _, _, hspelled⟩, hbuilt.1,
    hbuilt.2.1, hbare.2.2 rfl⟩

end CodeAtlas.Address
