-- Cutting texts: into segments between separators, and into lines.

/-! ## Segments between separators -/

namespace CodeAtlas.Segments

/-- The segments between the separators. There is one more of them than there are separators. -/
def split (sep : Char) : List Char → List (List Char)
  | [] => [[]]
  | c :: cs =>
    if c = sep then [] :: split sep cs
    else
      match split sep cs with
      | [] => [[c]]
      | s :: rest => (c :: s) :: rest

/-- Puts a separator between the segments. -/
def join (sep : Char) : List (List Char) → List Char
  | [] => []
  | [s] => s
  | s :: t :: rest => s ++ sep :: join sep (t :: rest)

theorem split_ne_nil (sep : Char) (cs : List Char) : split sep cs ≠ [] := by
  cases cs with
  | nil => simp [split]
  | cons c cs =>
    simp only [split]
    split
    · simp
    · split <;> simp

/-- The segments hold all there was. -/
theorem join_split (sep : Char) (cs : List Char) : join sep (split sep cs) = cs := by
  induction cs with
  | nil => rfl
  | cons c cs ih =>
    have hne := split_ne_nil sep cs
    simp only [split]
    split
    · rename_i hc
      cases hs : split sep cs with
      | nil => exact absurd hs hne
      | cons s rest => rw [hs] at ih; simp [join, ih, hc]
    · cases hs : split sep cs with
      | nil => exact absurd hs hne
      | cons s rest =>
        rw [hs] at ih
        cases rest <;> simp_all [join]

/-- No segment holds a separator. -/
theorem notMem_of_mem_split {sep : Char} {cs s : List Char} (h : s ∈ split sep cs) : sep ∉ s := by
  induction cs generalizing s with
  | nil => simp_all [split]
  | cons c cs ih =>
    simp only [split] at h
    split at h
    · rcases List.mem_cons.1 h with rfl | h
      · simp
      · exact ih h
    · rename_i hc
      cases hs : split sep cs with
      | nil => exact absurd hs (split_ne_nil sep cs)
      | cons t rest =>
        rw [hs] at h ih
        rcases List.mem_cons.1 h with rfl | h
        · have ht := ih List.mem_cons_self
          exact fun hm => (List.mem_cons.1 hm).elim (fun h => hc h.symm) ht
        · exact ih (List.mem_cons_of_mem _ h)

theorem split_of_notMem {sep : Char} {s : List Char} (h : sep ∉ s) : split sep s = [s] := by
  induction s with
  | nil => rfl
  | cons c s ih =>
    simp only [List.mem_cons, not_or] at h
    simp [split, Ne.symm h.1, ih h.2]

theorem split_append {sep : Char} {s : List Char} (h : sep ∉ s) (cs : List Char) :
    split sep (s ++ sep :: cs) = s :: split sep cs := by
  induction s with
  | nil => simp [split]
  | cons c s ih =>
    simp only [List.mem_cons, not_or] at h
    simp [split, Ne.symm h.1, ih h.2]

/-- Segments that hold no separator come back when they are joined and split again. -/
theorem split_join {sep : Char} {ss : List (List Char)} (hne : ss ≠ [])
    (h : ∀ s ∈ ss, sep ∉ s) : split sep (join sep ss) = ss := by
  fun_induction join sep ss with
  | case1 => contradiction
  | case2 s => exact split_of_notMem (h s (by simp))
  | case3 s t rest ih =>
    rw [split_append (h s (by simp)), ih (by simp) fun u hu => h u (by simp_all)]

end CodeAtlas.Segments

/-! ## Lines, and their width as editors count it -/

namespace CodeAtlas.Lines

/-- Writes every end of a line as a line feed: a carriage return counts as one, and so does a
carriage return with the line feed after it. -/
def unify : List Char → List Char
  | [] => []
  | '\r' :: '\n' :: cs => '\n' :: unify cs
  | '\r' :: cs => '\n' :: unify cs
  | c :: cs => c :: unify cs

/-- No carriage return is left. -/
theorem notMem_unify (cs : List Char) : '\r' ∉ unify cs := by
  fun_induction unify cs with
  | case1 => simp
  | case2 cs ih => simp [ih]
  | case3 cs _ ih => simp [ih]
  | case4 c cs _ hc ih =>
    simp only [List.mem_cons, not_or]
    exact ⟨fun h => hc h.symm, ih⟩

/-- A text without carriage returns stays as it is. -/
theorem unify_eq_self {cs : List Char} (h : '\r' ∉ cs) : unify cs = cs := by
  fun_induction unify cs with
  | case1 => rfl
  | case2 cs ih => simp at h
  | case3 cs _ ih => simp at h
  | case4 c cs _ hc ih => simp_all

theorem unify_unify (cs : List Char) : unify (unify cs) = unify cs :=
  unify_eq_self (notMem_unify cs)

/-- The characters that end a line of a list of patterns: feeds, tabs and separators of lines,
sections and paragraphs. -/
def breaks : List Char :=
  ['\n', '\r', '\x0b', '\x0c', '\x1c', '\x1d', '\x1e', '\u0085', '\u2028', '\u2029']

/-- Cuts a text whose line ends are single characters. What follows the last end is a line only
if it is not empty. -/
def cut : List Char → List (List Char)
  | [] => []
  | c :: cs =>
    if breaks.contains c then [] :: cut cs
    else
      match cut cs with
      | [] => [[c]]
      | line :: rest => (c :: line) :: rest

/-- The lines of a text. -/
def split (cs : List Char) : List (List Char) := cut (unify cs)

/-- How many UTF-16 units a character takes. -/
def units (c : Char) : Nat := if c.toNat < 0x10000 then 1 else 2

/-- The width of a text in UTF-16 units. -/
def width : List Char → Nat
  | [] => 0
  | c :: cs => units c + width cs

end CodeAtlas.Lines
