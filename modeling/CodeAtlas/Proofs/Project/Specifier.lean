-- Where relative specifiers point at. A specifier is some steps up and a rest. It points at the
-- rest below what is left of the folders, and this is the normal form of the folder joined with
-- the specifier; so every file can be named from every other one.
import CodeAtlas.Project.Imports
import Mathlib.Data.List.Basic

namespace CodeAtlas

namespace Segments

variable {sep : Char}

/-- Two texts with a separator between them have the segments of both. -/
theorem split_append_cons (cs ds : List Char) :
    split sep (cs ++ sep :: ds) = split sep cs ++ split sep ds := by
  induction cs with
  | nil => simp [split]
  | cons c cs ih =>
    rw [List.cons_append, split, split, ih]
    by_cases hc : c = sep
    · simp [hc]
    · cases hs : split sep cs with
      | nil => exact absurd hs (split_ne_nil sep cs)
      | cons s rest => simp [hc]

theorem join_cons (s : List Char) {ss : List (List Char)} (h : ss ≠ []) :
    join sep (s :: ss) = s ++ sep :: join sep ss := by
  cases ss with
  | nil => contradiction
  | cons t ss => rfl

/-- A text after segments that hold no separator adds its own segments to them. -/
theorem split_join_snoc {ss : List (List Char)} (h : ∀ s ∈ ss, sep ∉ s) (cs : List Char) :
    split sep (join sep (ss ++ [cs])) = ss ++ split sep cs := by
  induction ss with
  | nil => rfl
  | cons s ss ih =>
    rw [List.cons_append, join_cons s (by simp), split_append (h s (by simp)),
      ih fun t ht => h t (by simp [ht]), List.cons_append]

theorem join_snoc {ss : List (List Char)} (h : ss ≠ []) (s : List Char) :
    join sep (ss ++ [s]) = join sep ss ++ sep :: s := by
  induction ss with
  | nil => contradiction
  | cons t ss ih =>
    cases ss with
    | nil => rfl
    | cons u ss =>
      rw [List.cons_append, join_cons t (by simp), ih (by simp), join_cons t (by simp)]
      simp

theorem join_ne_nil {ss : List (List Char)} (hne : ss ≠ []) (h : ∀ s ∈ ss, s ≠ []) :
    join sep ss ≠ [] := by
  cases ss with
  | nil => contradiction
  | cons s ss =>
    have hs := h s (by simp)
    cases ss <;> simp [join, hs]

end Segments

namespace Specifier

/-! ## Normal forms -/

/-- A component that leads down: it is not empty, and neither a single nor a double dot. -/
def IsProper (c : List Char) : Prop := c ≠ [] ∧ c ≠ ['.'] ∧ c ≠ ['.', '.']

instance (c : List Char) : Decidable (IsProper c) := inferInstanceAs (Decidable (_ ∧ _ ∧ _))

/-- Goes on from some folders by one component. An empty one and a single dot stay there; a double
dot leads one folder up, and stays if there is none left. -/
def advance (folders : List (List Char)) (c : List Char) : List (List Char) :=
  if c = ['.', '.'] then folders.dropLast
  else if c = [] ∨ c = ['.'] then folders
  else folders ++ [c]

/-- The normal form of a path that starts at the top of the project. -/
def normalize (path : List Char) : List Char :=
  Segments.join '/' ((Segments.split '/' path).foldl advance [])

theorem foldl_advance_of_isProper {cs : List (List Char)} (h : ∀ c ∈ cs, IsProper c)
    (folders : List (List Char)) : cs.foldl advance folders = folders ++ cs := by
  induction cs generalizing folders with
  | nil => simp
  | cons c cs ih =>
    obtain ⟨hempty, hdot, hdots⟩ := h c (by simp)
    rw [List.foldl_cons, ih fun d hd => h d (by simp [hd])]
    simp [advance, hempty, hdot, hdots]

theorem foldl_advance_up (k : Nat) (folders : List (List Char)) :
    (List.replicate k ['.', '.']).foldl advance folders =
      folders.take (folders.length - k) := by
  induction k generalizing folders with
  | zero => simp
  | succ k ih =>
    have hup : advance folders ['.', '.'] = folders.dropLast := by simp [advance]
    rw [List.replicate_succ, List.foldl_cons, hup, ih, List.dropLast_eq_take, List.take_take,
      List.length_take]
    congr 1
    omega

/-- Joined folders lead back to the folders. -/
theorem foldl_advance_join {folders : List (List Char)} (hproper : ∀ c ∈ folders, IsProper c)
    (hslash : ∀ c ∈ folders, '/' ∉ c) :
    (Segments.split '/' (Segments.join '/' folders)).foldl advance [] = folders := by
  by_cases hnil : folders = []
  · subst hnil
    decide
  · rw [Segments.split_join hnil hslash, foldl_advance_of_isProper hproper, List.nil_append]

/-! ## Steps up and the rest -/

/-- Steps up. -/
def upward (k : Nat) : List Char := (List.replicate k ['.', '.', '/']).flatten

/-- How a specifier is read: as `k` steps up and a rest that does not start with a further one, or
as a step that stays and a rest, or as nothing but the rest. -/
inductive Reads : List Char → Nat → List Char → Prop
  | climbs {k : Nat} {rest : List Char} (hk : 0 < k) (hrest : ¬ ['.', '.', '/'] <+: rest) :
      Reads (upward k ++ rest) k rest
  | stays (rest : List Char) : Reads ('.' :: '/' :: rest) 0 rest
  | plain {rest : List Char} (hup : ¬ ['.', '.', '/'] <+: rest) (hhere : ¬ ['.', '/'] <+: rest) :
      Reads rest 0 rest

theorem upward_succ (k : Nat) : upward (k + 1) = '.' :: '.' :: '/' :: upward k := by
  simp [upward, List.replicate_succ]

theorem climb_eq_zero {cs : List Char} (h : ¬ ['.', '.', '/'] <+: cs) :
    climb cs = (0, cs) := by
  unfold climb
  split
  · exact absurd (by simp) h
  · rfl

theorem climb_upward {rest : List Char} (h : ¬ ['.', '.', '/'] <+: rest) (k : Nat) :
    climb (upward k ++ rest) = (k, rest) := by
  induction k with
  | zero => exact climb_eq_zero h
  | succ k ih => simp [upward_succ, climb, ih]

/-- Every specifier can be read. -/
theorem exists_reads (cs : List Char) : ∃ k rest, Reads cs k rest := by
  have hclimb : ∀ cs, ∃ k rest, cs = upward k ++ rest ∧ ¬ ['.', '.', '/'] <+: rest := by
    intro cs
    fun_induction climb cs with
    | case1 cs ih =>
      obtain ⟨k, rest, rfl, hrest⟩ := ih
      exact ⟨k + 1, rest, by simp [upward_succ], hrest⟩
    | case2 cs hcs =>
      refine ⟨0, cs, rfl, ?_⟩
      rintro ⟨rest, rfl⟩
      exact hcs rest rfl
  obtain ⟨k, rest, rfl, hrest⟩ := hclimb cs
  by_cases hk : 0 < k
  · exact ⟨k, rest, .climbs hk hrest⟩
  · obtain rfl : k = 0 := by omega
    by_cases hhere : ['.', '/'] <+: rest
    · obtain ⟨rest, rfl⟩ := hhere
      exact ⟨0, rest, .stays rest⟩
    · exact ⟨0, rest, .plain hrest hhere⟩

theorem split_upward (k : Nat) (rest : List Char) :
    Segments.split '/' (upward k ++ rest) =
      List.replicate k ['.', '.'] ++ Segments.split '/' rest := by
  induction k with
  | zero => rfl
  | succ k ih =>
    calc Segments.split '/' (upward (k + 1) ++ rest)
        = Segments.split '/' (['.', '.'] ++ '/' :: (upward k ++ rest)) := by simp [upward_succ]
      _ = ['.', '.'] :: Segments.split '/' (upward k ++ rest) :=
          Segments.split_append (by decide) _
      _ = List.replicate (k + 1) ['.', '.'] ++ Segments.split '/' rest := by
          rw [ih, List.replicate_succ, List.cons_append]

/-- A specifier leads as many folders up as it has steps up, and then where the rest leads. -/
theorem Reads.foldl_advance {cs rest : List Char} {k : Nat} (h : Reads cs k rest)
    (folders : List (List Char)) :
    (Segments.split '/' cs).foldl advance folders =
      (Segments.split '/' rest).foldl advance (folders.take (folders.length - k)) := by
  cases h with
  | climbs hk hrest => rw [split_upward, List.foldl_append, foldl_advance_up]
  | stays =>
    have hstep : Segments.split '/' ('.' :: '/' :: rest) = ['.'] :: Segments.split '/' rest :=
      Segments.split_append (by decide : '/' ∉ ['.']) _
    rw [hstep, List.foldl_cons]
    simp [advance]
  | plain hup hhere => simp

/-! ## The target -/

theorem notMem_of_mem_foldersOf {path c : List Char} (h : c ∈ foldersOf path) : '/' ∉ c :=
  Segments.notMem_of_mem_split (List.dropLast_subset _ h)

theorem Reads.dropHere {cs rest : List Char} (h : Reads cs 0 rest) : dropHere cs = rest := by
  cases h with
  | climbs hk => contradiction
  | stays => rfl
  | plain hup hhere =>
    unfold Specifier.dropHere
    split
    · exact absurd (by simp) hhere
    · rfl

theorem Reads.climb {cs rest : List Char} {k : Nat} (h : Reads cs k rest) :
    0 < k ∧ climb cs = (k, rest) ∨ k = 0 ∧ (climb cs).1 = 0 := by
  cases h with
  | climbs hk hrest => exact .inl ⟨hk, climb_upward hrest k⟩
  | stays => exact .inr ⟨rfl, by rw [climb_eq_zero (by simp)]⟩
  | plain hup hhere => exact .inr ⟨rfl, by rw [climb_eq_zero hup]⟩

/-- A specifier points at its rest below the folders that its steps up leave. -/
theorem targetOf_eq_join {specifier path rest : List Char} {k : Nat}
    (hreads : Reads specifier k rest) (hproper : ∀ c ∈ foldersOf path, IsProper c) :
    targetOf specifier path =
      Segments.join '/' ((foldersOf path).take ((foldersOf path).length - k) ++ [rest]) := by
  unfold targetOf
  rcases hreads.climb with ⟨hk, hclimb⟩ | ⟨rfl, hclimb⟩
  · simp [hclimb, hk]
  · simp only [hclimb, Nat.lt_irrefl, if_false, Nat.sub_zero, List.take_length,
      hreads.dropHere]
    by_cases hnil : foldersOf path = []
    · simp [hnil, Segments.join]
    · have hfolder : Segments.join '/' (foldersOf path) ≠ [] :=
        Segments.join_ne_nil hnil fun c hc => (hproper c hc).1
      rw [Segments.join_snoc hnil]
      simp [hfolder]

theorem split_targetOf {specifier path rest : List Char} {k : Nat}
    (hreads : Reads specifier k rest) (hproper : ∀ c ∈ foldersOf path, IsProper c) :
    Segments.split '/' (targetOf specifier path) =
      (foldersOf path).take ((foldersOf path).length - k) ++ Segments.split '/' rest := by
  rw [targetOf_eq_join hreads hproper]
  apply Segments.split_join_snoc
  intro c hc
  exact notMem_of_mem_foldersOf (List.mem_of_mem_take hc)

/-- A specifier whose rest leads down points at the normal form of the folder joined with it. -/
theorem targetOf_eq_normalize {specifier path rest : List Char} {k : Nat}
    (hreads : Reads specifier k rest) (hproper : ∀ c ∈ foldersOf path, IsProper c)
    (hrest : ∀ c ∈ Segments.split '/' rest, IsProper c) :
    targetOf specifier path =
      normalize (Segments.join '/' (foldersOf path) ++ '/' :: specifier) := by
  have hfolders := foldl_advance_join hproper fun c hc => notMem_of_mem_foldersOf hc
  unfold normalize
  rw [Segments.split_append_cons, List.foldl_append, hfolders, hreads.foldl_advance,
    foldl_advance_of_isProper hrest, ← split_targetOf hreads hproper, Segments.join_split]

/-! ## The laws -/

/-- A relative specifier can be resolved from every file whose folders all lead down. However it is
read as steps up and a rest, the components of the path that it points at are the folders but for
the last ones, one for each step up as long as there are folders, followed by the components of the
rest; and if these all lead down, then the path is the normal form of the folder joined with the
specifier. -/
theorem resolve_normalizes (specifier path : String)
    (hproper : ∀ c ∈ foldersOf path.toList, IsProper c) (hrelative : isRelative specifier = true) :
    ∃ result, resolve specifier path = .ok result ∧
      (∃ k rest, Reads specifier.toList k rest) ∧
      ∀ k rest, Reads specifier.toList k rest →
        Segments.split '/' result.toList =
          (foldersOf path.toList).take
              ((foldersOf path.toList).length - min k (foldersOf path.toList).length) ++
            Segments.split '/' rest ∧
        ((∀ c ∈ Segments.split '/' rest, IsProper c) →
          result.toList = normalize
            (Segments.join '/' (foldersOf path.toList) ++ '/' :: specifier.toList)) := by
  refine ⟨target specifier path, ?_, exists_reads specifier.toList, ?_⟩
  · simp [resolve, hrelative]
  · intro k rest hreads
    have hcut : (foldersOf path.toList).length - min k (foldersOf path.toList).length =
        (foldersOf path.toList).length - k := by
      omega
    rw [target, String.toList_ofList, hcut]
    exact ⟨split_targetOf hreads hproper, targetOf_eq_normalize hreads hproper⟩

/-- More steps up than there are folders lead to the top. -/
theorem resolve_normalizes_above_top :
    (∀ c ∈ foldersOf "src/a/b.ts".toList, IsProper c) ∧ isRelative "../../../c/d.ts" = true ∧
      Reads "../../../c/d.ts".toList 3 "c/d.ts".toList ∧
      resolve "../../../c/d.ts" "src/a/b.ts" = .ok "c/d.ts" ∧
      "c/d.ts".toList = normalize "src/a/../../../c/d.ts".toList := by
  have hproper : ∀ c ∈ foldersOf "src/a/b.ts".toList, IsProper c := by decide
  have hreads : Reads "../../../c/d.ts".toList 3 "c/d.ts".toList :=
    @Reads.climbs 3 "c/d.ts".toList (by decide) (by decide)
  obtain ⟨result, hresolve, -, hlaws⟩ :=
    resolve_normalizes "../../../c/d.ts" "src/a/b.ts" hproper (by decide)
  obtain ⟨-, hnormal⟩ := hlaws 3 _ hreads
  have hresult : result = "c/d.ts" := by
    have hok : resolve "../../../c/d.ts" "src/a/b.ts" = .ok "c/d.ts" := by decide
    exact Except.ok.inj (hresolve.symm.trans hok)
  subst hresult
  exact ⟨hproper, by decide, hreads, hresolve, hnormal (by decide)⟩

/-! ## Naming one file from another -/

/-- As many steps up, or a step that stays in place of none. -/
def leadIn (k : Nat) : List Char := if k = 0 then ['.', '/'] else upward k

/-- The specifier by which the file at `path` names the one at `other`, when they share their first
folders: a step up for each further folder of the one, or a step that stays if there is none, and
then the further components of the other. -/
def naming (shared : List (List Char)) (path other : String) : String :=
  String.ofList (leadIn ((foldersOf path.toList).drop shared.length).length ++
    Segments.join '/' ((Segments.split '/' other.toList).drop shared.length))

theorem not_prefix_of_isProper {rest : List Char}
    (h : ∀ c ∈ Segments.split '/' rest, IsProper c) : ¬ ['.', '.', '/'] <+: rest := by
  rintro ⟨cs, rfl⟩
  have hsplit : Segments.split '/' (['.', '.', '/'] ++ cs) = ['.', '.'] :: Segments.split '/' cs :=
    Segments.split_append (by decide : '/' ∉ ['.', '.']) cs
  rw [hsplit] at h
  exact (h ['.', '.'] List.mem_cons_self).2.2 rfl

/-- The steps before a rest that leads down are read off as they are. -/
theorem reads_leadIn {rest : List Char} (h : ∀ c ∈ Segments.split '/' rest, IsProper c) (k : Nat) :
    Reads (leadIn k ++ rest) k rest := by
  unfold leadIn
  by_cases hk : k = 0
  · subst hk
    exact .stays rest
  · rw [if_neg hk]
    exact .climbs (by omega) (not_prefix_of_isProper h)

theorem head?_leadIn (k : Nat) (rest : List Char) : (leadIn k ++ rest).head? = some '.' := by
  cases k with
  | zero => rfl
  | succ k => simp [leadIn, upward_succ]

/-- Every file can name every other one, over any folders that both lie in. -/
theorem resolve_naming (path other : String) (shared : List (List Char))
    (hpath : ∀ c ∈ Segments.split '/' path.toList, IsProper c)
    (hother : ∀ c ∈ Segments.split '/' other.toList, IsProper c)
    (hfrom : shared <+: foldersOf path.toList) (hto : shared <+: foldersOf other.toList) :
    resolve (naming shared path other) path = .ok other := by
  obtain ⟨further, hfolders⟩ := hfrom
  obtain ⟨beyond, hbeyond⟩ := hto
  have hne := Segments.split_ne_nil '/' other.toList
  -- the components of the other path are the shared folders and a rest that is not empty
  obtain ⟨ds, hds, hsplit⟩ : ∃ ds, ds ≠ [] ∧ Segments.split '/' other.toList = shared ++ ds := by
    refine ⟨beyond ++ [(Segments.split '/' other.toList).getLast hne], by simp, ?_⟩
    rw [← List.append_assoc, hbeyond]
    exact (List.dropLast_append_getLast hne).symm
  have hrest : Segments.split '/' (Segments.join '/' ds) = ds := by
    refine Segments.split_join hds fun c hc => ?_
    exact Segments.notMem_of_mem_split (hsplit ▸ List.mem_append_right shared hc)
  have hnaming : (naming shared path other).toList =
      leadIn further.length ++ Segments.join '/' ds := by
    simp [naming, ← hfolders, hsplit]
  have hrelative : isRelative (naming shared path other) = true := by
    rw [isRelative, hnaming, head?_leadIn, decide_eq_true rfl]
  have hreads : Reads (naming shared path other).toList further.length (Segments.join '/' ds) := by
    rw [hnaming]
    apply reads_leadIn
    intro c hc
    rw [hrest] at hc
    exact hother c (hsplit ▸ List.mem_append_right shared hc)
  have hproper : ∀ c ∈ foldersOf path.toList, IsProper c := by
    intro c hc
    exact hpath c (List.dropLast_subset _ hc)
  have htarget : targetOf (naming shared path other).toList path.toList = other.toList := by
    have hshared : (foldersOf path.toList).take ((foldersOf path.toList).length - further.length) =
        shared := by
      simp [← hfolders]
    rw [← Segments.join_split '/' (targetOf _ _), split_targetOf hreads hproper, hrest, hshared,
      ← hsplit, Segments.join_split]
  unfold resolve
  rw [if_pos hrelative, target, htarget, String.ofList_toList]

/-- From a folder that is deeper, over the first of two folders that are shared. -/
theorem resolve_naming_across :
    (∀ c ∈ Segments.split '/' "src/a/x/y.ts".toList, IsProper c) ∧
      (∀ c ∈ Segments.split '/' "src/a/..z.ts".toList, IsProper c) ∧
      naming ["src".toList] "src/a/x/y.ts" "src/a/..z.ts" = "../../a/..z.ts" ∧
      resolve "../../a/..z.ts" "src/a/x/y.ts" = .ok "src/a/..z.ts" := by
  have hpath : ∀ c ∈ Segments.split '/' "src/a/x/y.ts".toList, IsProper c := by decide
  have hother : ∀ c ∈ Segments.split '/' "src/a/..z.ts".toList, IsProper c := by decide
  have hnaming : naming ["src".toList] "src/a/x/y.ts" "src/a/..z.ts" = "../../a/..z.ts" := by
    decide
  refine ⟨hpath, hother, hnaming, ?_⟩
  rw [← hnaming]
  exact resolve_naming _ _ _ hpath hother (by decide) (by decide)

end Specifier

end CodeAtlas
