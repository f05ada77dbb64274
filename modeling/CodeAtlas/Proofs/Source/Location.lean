-- Where phrases stand in a text. A phrase that starts after some characters stands on the line
-- that as many line feeds lead to, and its column counts the UTF-16 units since the last of them.
-- So what starts later stands at a later place. All this takes for granted that the grammar counts
-- lines and bytes right.
import CodeAtlas.Source.Basic
import Mathlib.Data.List.DropRight
import Mathlib.Data.Prod.Lex

namespace CodeAtlas

/-! ## UTF-16 -/

namespace Utf16

/-- The units of a character: its number, or two halves if that is too large for one unit. -/
def encodeChar (c : Char) : List Nat :=
  if c.toNat < 0x10000 then [c.toNat]
  else [0xD800 + (c.toNat - 0x10000) / 0x400, 0xDC00 + (c.toNat - 0x10000) % 0x400]

/-- The units of a text. -/
def encode (cs : List Char) : List Nat := cs.flatMap encodeChar

theorem encode_cons (c : Char) (cs : List Char) : encode (c :: cs) = encodeChar c ++ encode cs :=
  List.flatMap_cons

theorem length_encodeChar (c : Char) : (encodeChar c).length = Lines.units c := by
  unfold encodeChar Lines.units
  split <;> rfl

/-- The width of a text is the number of its units. -/
theorem length_encode (cs : List Char) : (encode cs).length = Lines.width cs := by
  induction cs with
  | nil => rfl
  | cons c cs ih => rw [encode_cons, List.length_append, length_encodeChar, ih, Lines.width]

end Utf16

/-! ## Line feeds among the bytes of a text -/

namespace Utf8

theorem encode_append (cs ds : List Char) : encode (cs ++ ds) = encode cs ++ encode ds :=
  List.flatMap_append

theorem encode_singleton (c : Char) : encode [c] = encodeChar c := by
  simp [encode]

theorem toNat_ofNat_of_lt {v : Nat} (h : v < 256) : (UInt8.ofNat v).toNat = v := by
  rw [UInt8.toNat_ofNat', Nat.mod_eq_of_lt h]

/-- The bytes of a character that takes several of them are above all ASCII ones. -/
theorem le_toNat_of_mem_encodeChar {c : Char} (hc : ¬ c.toNat < 0x80) {b : UInt8}
    (h : b ∈ encodeChar c) : 0x80 ≤ b.toNat := by
  have hbounds := toNat_bounds c
  unfold encodeChar at h
  simp only [if_neg hc] at h
  split_ifs at h <;> simp only [List.mem_cons, List.not_mem_nil, or_false] at h
  · rcases h with rfl | rfl <;> rw [toNat_ofNat_of_lt (by omega)] <;> omega
  · rcases h with rfl | rfl | rfl <;> rw [toNat_ofNat_of_lt (by omega)] <;> omega
  · rcases h with rfl | rfl | rfl | rfl <;> rw [toNat_ofNat_of_lt (by omega)] <;> omega

theorem encodeChar_of_lt {c : Char} (hc : c.toNat < 0x80) :
    encodeChar c = [UInt8.ofNat c.toNat] := by
  unfold encodeChar
  simp only [if_pos hc]

/-- The byte of an ASCII character is no part of any other character. -/
theorem ofNat_mem_encodeChar_iff {a : Char} (ha : a.toNat < 0x80) (c : Char) :
    UInt8.ofNat a.toNat ∈ encodeChar c ↔ c = a := by
  constructor
  · intro h
    have hsmall : c.toNat < 0x80 := by
      by_contra hc
      have hle := le_toNat_of_mem_encodeChar hc h
      rw [toNat_ofNat_of_lt (by omega)] at hle
      omega
    rw [encodeChar_of_lt hsmall, List.mem_singleton] at h
    apply Char.toNat_inj.1
    rw [← toNat_ofNat_of_lt (v := c.toNat) (by omega), ← h, toNat_ofNat_of_lt (by omega)]
  · rintro rfl
    rw [encodeChar_of_lt ha]
    exact List.mem_singleton_self _

/-- The byte that ends a line is no part of any character but the line feed. -/
theorem lineFeed_mem_encodeChar_iff (c : Char) : lineFeed ∈ encodeChar c ↔ c = '\n' :=
  ofNat_mem_encodeChar_iff (a := '\n') (by decide) c

theorem encodeChar_lineFeed : encodeChar '\n' = [lineFeed] := rfl

/-- A text has as many bytes that end a line as it has line feeds. -/
theorem count_lineFeed_encode (cs : List Char) : (encode cs).count lineFeed = cs.count '\n' := by
  induction cs with
  | nil => rfl
  | cons c cs ih =>
    rw [encode, List.flatMap_cons, ← encode, List.count_append, ih, List.count_cons]
    by_cases hc : c = '\n'
    · subst hc
      rw [encodeChar_lineFeed, List.count_singleton_self]
      simp [Nat.add_comm]
    · rw [List.count_eq_zero_of_not_mem fun h => hc ((lineFeed_mem_encodeChar_iff c).1 h)]
      simp [hc]

theorem length_encode_le {cs ds : List Char} (h : cs <+: ds) :
    (encode cs).length ≤ (encode ds).length := by
  obtain ⟨rest, rfl⟩ := h
  rw [encode_append, List.length_append]
  exact Nat.le_add_right _ _

theorem take_encode {cs ds : List Char} (h : cs <+: ds) :
    (encode ds).take (encode cs).length = encode cs := by
  obtain ⟨rest, rfl⟩ := h
  rw [encode_append, List.take_left]

end Utf8

theorem rtakeWhile_append_of_pos {α : Type} {p : α → Bool} (xs : List α) {ys : List α}
    (h : ∀ y ∈ ys, p y = true) : (xs ++ ys).rtakeWhile p = xs.rtakeWhile p ++ ys := by
  unfold List.rtakeWhile
  rw [List.reverse_append, List.takeWhile_append_of_pos (by simpa using h), List.reverse_append,
    List.reverse_reverse]

namespace Point

/-- The bytes after the last end of a line. -/
def lastLine (bytes : List UInt8) : List UInt8 := bytes.rtakeWhile (· ≠ lineFeed)

/-- Counting byte by byte leads to the number of line feeds and the length of the last line. -/
theorem foldl_next (bytes : List UInt8) :
    bytes.foldl next ⟨0, 0⟩ = ⟨bytes.count lineFeed, (lastLine bytes).length⟩ := by
  induction bytes using List.reverseRecOn with
  | nil => rfl
  | append_singleton bytes b ih =>
    unfold lastLine at ih ⊢
    rw [List.foldl_append, ih, List.count_append, List.rtakeWhile_concat]
    by_cases hb : b = lineFeed <;> simp [next, hb]

/-- The bytes of a line before an offset are as many as its column says. -/
theorem take_drop_column {bytes : List UInt8} {offset : Nat} (h : offset ≤ bytes.length) :
    let lineStart := offset - (ofOffset bytes offset).column
    (bytes.drop lineStart).take (offset - lineStart) = lastLine (bytes.take offset) := by
  intro lineStart
  have hsuffix : lastLine (bytes.take offset) <:+ bytes.take offset := List.rtakeWhile_suffix _ _
  have hstart : lineStart = (bytes.take offset).length - (lastLine (bytes.take offset)).length := by
    unfold lineStart ofOffset
    rw [foldl_next, List.length_take_of_le h]
  have hle : lineStart ≤ offset := Nat.sub_le _ _
  rw [List.take_drop, Nat.add_sub_cancel' hle, hstart, ← List.suffix_iff_eq_drop.1 hsuffix]

end Point

namespace Location

/-- The characters after the last line feed. -/
def unfinishedLine (cs : List Char) : List Char := cs.rtakeWhile (· ≠ '\n')

theorem unfinishedLine_append {cs ds : List Char} (h : '\n' ∉ ds) :
    unfinishedLine (cs ++ ds) = unfinishedLine cs ++ ds := by
  apply rtakeWhile_append_of_pos
  intro d hd
  rw [decide_eq_true_eq]
  rintro rfl
  exact h hd

/-- The last line of the bytes of a text holds the bytes of its last line. -/
theorem lastLine_encode (cs : List Char) :
    Point.lastLine (Utf8.encode cs) = Utf8.encode (unfinishedLine cs) := by
  unfold Point.lastLine
  -- the last character decides whether the line goes on
  induction cs using List.reverseRecOn with
  | nil => rfl
  | append_singleton cs c ih =>
    rw [Utf8.encode_append, Utf8.encode_singleton]
    by_cases hc : c = '\n'
    · subst hc
      rw [Utf8.encodeChar_lineFeed, List.rtakeWhile_concat, unfinishedLine, List.rtakeWhile_concat]
      rfl
    · rw [rtakeWhile_append_of_pos, ih, unfinishedLine_append, Utf8.encode_append,
        Utf8.encode_singleton]
      · simpa using Ne.symm hc
      · intro b hb
        rw [decide_eq_true_eq]
        rintro rfl
        exact hc ((Utf8.lineFeed_mem_encodeChar_iff c).1 hb)

/-! ## Places -/

/-- Where what follows these characters stands: as many line feeds lead to its line, and its column
is the number of UTF-16 units since the last of them. -/
def after (cs : List Char) : Location where
  line := 1 + cs.count '\n'
  column := (Utf16.encode (unfinishedLine cs)).length

/-- The order in which a reader comes to two places. -/
def Before (a b : Location) : Prop := toLex (a.line, a.column) < toLex (b.line, b.column)

theorem width_append (cs ds : List Char) :
    Lines.width (cs ++ ds) = Lines.width cs + Lines.width ds := by
  induction cs with
  | nil => simp [Lines.width]
  | cons c cs ih => rw [List.cons_append, Lines.width, Lines.width, ih, Nat.add_assoc]

theorem width_pos {cs : List Char} (h : cs ≠ []) : 0 < Lines.width cs := by
  cases cs with
  | nil => exact absurd rfl h
  | cons c cs =>
    unfold Lines.width Lines.units
    split <;> omega

/-- More characters lead to a later place. -/
theorem after_before_append (cs : List Char) {more : List Char} (h : more ≠ []) :
    Before (after cs) (after (cs ++ more)) := by
  unfold Before after
  rw [Prod.Lex.toLex_lt_toLex]
  dsimp only
  rw [List.count_append]
  by_cases hfeed : '\n' ∈ more
  · left
    have hpos := List.count_pos_iff.2 hfeed
    omega
  · right
    have hwidth := width_pos h
    rw [List.count_eq_zero_of_not_mem hfeed, unfinishedLine_append hfeed, Utf16.length_encode,
      Utf16.length_encode, width_append]
    omega

end Location

/-! ## Phrases in a text -/

/-- The grammar counts right: the row and column of the token are those of its first byte. -/
def Token.Placed (t : Token) (bytes : List UInt8) : Prop := t.point = .ofOffset bytes t.start

/-- The phrase starts right after the first characters of the text. -/
def Phrase.StartsAfter (p : Phrase) (text : String) (pre : List Char) : Prop :=
  pre <+: text.toList ∧ p.label.start = (Utf8.encode pre).length

/-- Of two beginnings of a text the one with fewer bytes is the beginning of the other. -/
theorem Phrase.StartsAfter.exists_append {p q : Phrase} {text : String} {pre post : List Char}
    (hp : p.StartsAfter text pre) (hq : q.StartsAfter text post)
    (hlt : p.label.start < q.label.start) : ∃ more, more ≠ [] ∧ post = pre ++ more := by
  obtain ⟨hpre, hpstart⟩ := hp
  obtain ⟨hpost, hqstart⟩ := hq
  rw [hpstart, hqstart] at hlt
  rcases List.prefix_or_prefix_of_prefix hpre hpost with ⟨more, rfl⟩ | hle
  · refine ⟨more, ?_, rfl⟩
    rintro rfl
    rw [List.append_nil] at hlt
    exact absurd hlt (Nat.lt_irrefl _)
  · exact absurd hlt (Nat.not_lt.2 (Utf8.length_encode_le hle))

namespace Source

theorem locationOf_eq_after {s : Source} {text : String} (hs : s.bytes = Utf8.encode text.toList)
    {p : Phrase} (hplaced : p.label.Placed s.bytes) {pre : List Char}
    (hp : p.StartsAfter text pre) : s.locationOf p = Location.after pre := by
  obtain ⟨hpre, hstart⟩ := hp
  have hle : p.label.start ≤ s.bytes.length := by
    rw [hs, hstart]
    exact Utf8.length_encode_le hpre
  have htake : s.bytes.take p.label.start = Utf8.encode pre := by
    rw [hs, hstart, Utf8.take_encode hpre]
  have hline := Point.take_drop_column hle
  unfold Token.Placed at hplaced
  unfold locationOf Location.after
  dsimp only at hline ⊢
  rw [hplaced, hline, Point.ofOffset, Point.foldl_next, htake, Utf8.count_lineFeed_encode,
    Location.lastLine_encode, Utf8.decodeLossy_encode, Utf16.length_encode, Nat.add_comm]

/-- A phrase that starts after some characters of the text stands where these lead to: on the line
after as many line feeds, at the column of the UTF-16 units since the last. A phrase that starts at
a later byte stands at a later place. -/
theorem locationOf_follows_text (s : Source) (text : String)
    (hs : s.bytes = Utf8.encode text.toList) :
    (∀ (p : Phrase) (pre : List Char), p.label.Placed s.bytes → p.StartsAfter text pre →
      (s.locationOf p).line = 1 + pre.count '\n' ∧
      (s.locationOf p).column = (Utf16.encode (Location.unfinishedLine pre)).length) ∧
    ∀ (p q : Phrase) (pre post : List Char), p.label.Placed s.bytes → q.label.Placed s.bytes →
      p.StartsAfter text pre → q.StartsAfter text post →
      p.label.start < q.label.start → (s.locationOf p).Before (s.locationOf q) := by
  constructor
  · intro p pre hplaced hp
    rw [locationOf_eq_after hs hplaced hp]
    exact ⟨rfl, rfl⟩
  · intro p q pre post hpplaced hqplaced hp hq hlt
    obtain ⟨more, hmore, rfl⟩ := hp.exists_append hq hlt
    rw [locationOf_eq_after hs hpplaced hp, locationOf_eq_after hs hqplaced hq]
    exact Location.after_before_append pre hmore

/-- Two lines with a character of four bytes and two units on each. -/
def starryText : String := "x😀\né😀y"

def wordAt (start : Nat) : Phrase :=
  .node ⟨"identifier", start, .ofOffset (Utf8.encode starryText.toList) start, start + 1, true,
    false, false, false, none⟩ []

/-- A source with the text of two lines. -/
def starrySource : Source := ⟨.typescript, Utf8.encode starryText.toList, wordAt 0⟩

theorem locationOf_follows_text_starry :
    (∀ start, (wordAt start).label.Placed starrySource.bytes) ∧
      (wordAt 5).StartsAfter starryText "x😀".toList ∧
      (wordAt 12).StartsAfter starryText "x😀\né😀".toList ∧
      starrySource.locationOf (wordAt 5) = ⟨1, 3⟩ ∧ starrySource.locationOf (wordAt 12) = ⟨2, 3⟩ ∧
      (starrySource.locationOf (wordAt 5)).Before (starrySource.locationOf (wordAt 12)) := by
  have hfirst : (wordAt 5).StartsAfter starryText "x😀".toList := by
    refine ⟨?_, ?_⟩ <;> decide +kernel
  have hsecond : (wordAt 12).StartsAfter starryText "x😀\né😀".toList := by
    refine ⟨?_, ?_⟩ <;> decide +kernel
  have hplaced : ∀ start, (wordAt start).label.Placed starrySource.bytes := fun _ => rfl
  obtain ⟨hplace, horder⟩ := locationOf_follows_text starrySource starryText rfl
  obtain ⟨hline, hcolumn⟩ := hplace _ _ (hplaced 5) hfirst
  obtain ⟨hline', hcolumn'⟩ := hplace _ _ (hplaced 12) hsecond
  refine ⟨hplaced, hfirst, hsecond, ?_, ?_, ?_⟩
  · rw [Location.mk.injEq, hline, hcolumn]
    decide +kernel
  · rw [Location.mk.injEq, hline', hcolumn']
    decide +kernel
  · exact horder _ _ _ _ (hplaced 5) (hplaced 12) hfirst hsecond (by decide)

end Source

end CodeAtlas
