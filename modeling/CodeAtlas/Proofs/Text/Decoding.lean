-- What reading makes of bytes. The pieces that bytes are cut into are the bytes again, so that each
-- character and each mark stands for bytes of its own. From this follows how many bytes the text of
-- a file takes: as many as the file, but for marks that take more room than what they stand for and
-- line ends that are written shorter.
import CodeAtlas.Proofs.Source.Location
import Mathlib.Data.List.Forall2

namespace CodeAtlas

namespace Utf8

/-! ## Characters from bytes -/

theorem toNat_ofNat_of_bounds {v : Nat} (h : v < 0xD800 ∨ 0xE000 ≤ v ∧ v < 0x110000) :
    (Char.ofNat v).toNat = v := by
  have hvalid : v.isValidChar := by
    unfold Nat.isValidChar
    omega
  rw [Char.ofNat, dif_pos hvalid]
  rfl

theorem ofNat_of_eq_toNat {n : Nat} {b : UInt8} (h : n = b.toNat) : UInt8.ofNat n = b := by
  rw [h, UInt8.ofNat_toNat]

/-- The bytes after the first one of a sequence. -/
def IsTail (b : UInt8) : Prop := 0x80 ≤ b.toNat ∧ b.toNat ≤ 0xBF

theorem encodeChar_two {a b : UInt8} (ha : 0xC2 ≤ a.toNat) (ha' : a.toNat < 0xE0) (hb : IsTail b) :
    encodeChar (Char.ofNat ((a.toNat - 0xC0) * 64 + (b.toNat - 0x80))) = [a, b] := by
  obtain ⟨hb, hb'⟩ := hb
  unfold encodeChar
  rw [toNat_ofNat_of_bounds (by omega)]
  dsimp only
  rw [if_neg (by omega), if_pos (by omega), ofNat_of_eq_toNat (b := a) (by omega),
    ofNat_of_eq_toNat (b := b) (by omega)]

/-- Overlong forms and surrogates are left out by what may follow the first byte. -/
theorem encodeChar_three {a b c : UInt8} (ha : 0xE0 ≤ a.toNat) (ha' : a.toNat < 0xF0)
    (hb : IsTail b) (hc : IsTail c) (hlong : a.toNat = 0xE0 → 0xA0 ≤ b.toNat)
    (hsurrogate : a.toNat = 0xED → b.toNat ≤ 0x9F) :
    encodeChar (Char.ofNat (((a.toNat - 0xE0) * 64 + (b.toNat - 0x80)) * 64 + (c.toNat - 0x80))) =
      [a, b, c] := by
  obtain ⟨hb, hb'⟩ := hb
  obtain ⟨hc, hc'⟩ := hc
  unfold encodeChar
  rw [toNat_ofNat_of_bounds (by omega)]
  dsimp only
  rw [if_neg (by omega), if_neg (by omega), if_pos (by omega),
    ofNat_of_eq_toNat (b := a) (by omega), ofNat_of_eq_toNat (b := b) (by omega),
    ofNat_of_eq_toNat (b := c) (by omega)]

theorem encodeChar_four {a b c d : UInt8} (ha : 0xF0 ≤ a.toNat) (ha' : a.toNat ≤ 0xF4)
    (hb : IsTail b) (hc : IsTail c) (hd : IsTail d) (hlong : a.toNat = 0xF0 → 0x90 ≤ b.toNat)
    (hlast : a.toNat = 0xF4 → b.toNat ≤ 0x8F) :
    encodeChar (Char.ofNat ((((a.toNat - 0xF0) * 64 + (b.toNat - 0x80)) * 64
      + (c.toNat - 0x80)) * 64 + (d.toNat - 0x80))) = [a, b, c, d] := by
  obtain ⟨hb, hb'⟩ := hb
  obtain ⟨hc, hc'⟩ := hc
  obtain ⟨hd, hd'⟩ := hd
  unfold encodeChar
  rw [toNat_ofNat_of_bounds (by omega)]
  dsimp only
  rw [if_neg (by omega), if_neg (by omega), if_neg (by omega),
    ofNat_of_eq_toNat (b := a) (by omega), ofNat_of_eq_toNat (b := b) (by omega),
    ofNat_of_eq_toNat (b := c) (by omega), ofNat_of_eq_toNat (b := d) (by omega)]

/-! ## Sequences that have begun -/

/-- The value of a sequence with the bytes that end it. -/
def valueWith (value : Nat) (tail : List UInt8) : Nat :=
  tail.foldl (fun v b => v * 64 + (b.toNat - 0x80)) value

theorem valueWith_cons (value : Nat) (b : UInt8) (tail : List UInt8) :
    valueWith value (b :: tail) = valueWith (value * 64 + (b.toNat - 0x80)) tail :=
  List.foldl_cons

/-- The bytes are what must follow. -/
def Fits (due : List Range) (tail : List UInt8) : Prop :=
  List.Forall₂ (fun r b => Range.holds r b = true) due tail

/-- Whatever fits ends the sequence as a character with just these bytes. A sequence that is broken
off has at most three bytes, and none of them is a character of its own. -/
structure Begun.Sound (s : Begun) : Prop where
  seen : s.seen ≠ [] ∧ ∀ b ∈ s.seen, 0x80 ≤ b.toNat
  due : s.due ≠ [] ∧ ∀ r ∈ s.due, 0x80 ≤ r.low
  short : s.seen.length + s.due.length ≤ 4
  ends : ∀ tail, Fits s.due tail →
    encodeChar (Char.ofNat (valueWith s.value tail)) = s.seen ++ tail

/-- The bytes that a piece was read from. -/
def Piece.bytes : Piece → List UInt8
  | .char c => encodeChar c
  | .broken bytes _ => bytes

/-- A broken piece has from one to three bytes, and none of them is a character of its own. -/
def Piece.Sound : Piece → Prop
  | .char _ => True
  | .broken bytes _ => bytes ≠ [] ∧ bytes.length ≤ 3 ∧ ∀ b ∈ bytes, 0x80 ≤ b.toNat

/-- The bytes of the sequence that has begun. -/
def seenOf : Option Begun → List UInt8
  | none => []
  | some s => s.seen

/-- The pieces and the sequence that goes on are sound, and together they are these bytes. -/
structure Covers (bytes : List UInt8) (r : List Piece × Option Begun) : Prop where
  eq : r.1.flatMap Piece.bytes ++ seenOf r.2 = bytes
  pieces : ∀ p ∈ r.1, p.Sound
  state : ∀ s, r.2 = some s → s.Sound

theorem Range.holds_iff (r : Range) (b : UInt8) :
    r.holds b = true ↔ r.low ≤ b.toNat ∧ b.toNat ≤ r.high := by
  simp [Range.holds]

theorem isTail_of_holds {b : UInt8} (h : anyTail.holds b = true) : IsTail b :=
  (anyTail.holds_iff b).1 h

theorem fits_cons_iff {r : Range} {due : List Range} {tail : List UInt8} :
    Fits (r :: due) tail ↔ ∃ b rest, r.holds b = true ∧ Fits due rest ∧ tail = b :: rest :=
  List.forall₂_cons_left_iff

theorem fits_nil_iff {tail : List UInt8} : Fits [] tail ↔ tail = [] :=
  List.forall₂_nil_left_iff

theorem sound_two {a : UInt8} (ha : 0xC2 ≤ a.toNat) (ha' : a.toNat < 0xE0) :
    Begun.Sound ⟨[a], a.toNat - 0xC0, [anyTail]⟩ := by
  refine ⟨⟨by simp, by simp; omega⟩, ⟨by simp, by simp [anyTail]⟩, by simp, ?_⟩
  intro tail hfits
  obtain ⟨b, _, hb, hnil, rfl⟩ := fits_cons_iff.1 hfits
  cases fits_nil_iff.1 hnil
  exact encodeChar_two ha ha' (isTail_of_holds hb)

theorem sound_three {a : UInt8} {r : Range} (ha : 0xE0 ≤ a.toNat) (ha' : a.toNat < 0xF0)
    (hr : 0x80 ≤ r.low ∧ r.high ≤ 0xBF) (hlong : a.toNat = 0xE0 → 0xA0 ≤ r.low)
    (hsurrogate : a.toNat = 0xED → r.high ≤ 0x9F) :
    Begun.Sound ⟨[a], a.toNat - 0xE0, [r, anyTail]⟩ := by
  refine ⟨⟨by simp, by simp; omega⟩, ⟨by simp, by simp [anyTail, hr.1]⟩, by simp, ?_⟩
  intro tail hfits
  obtain ⟨b, _, hb, hrest, rfl⟩ := fits_cons_iff.1 hfits
  obtain ⟨c, _, hc, hnil, rfl⟩ := fits_cons_iff.1 hrest
  cases fits_nil_iff.1 hnil
  rw [Range.holds_iff] at hb
  exact encodeChar_three ha ha' ⟨by omega, by omega⟩ (isTail_of_holds hc)
    (fun h => by have := hlong h; omega) (fun h => by have := hsurrogate h; omega)

theorem sound_four {a : UInt8} {r : Range} (ha : 0xF0 ≤ a.toNat) (ha' : a.toNat ≤ 0xF4)
    (hr : 0x80 ≤ r.low ∧ r.high ≤ 0xBF) (hlong : a.toNat = 0xF0 → 0x90 ≤ r.low)
    (hlast : a.toNat = 0xF4 → r.high ≤ 0x8F) :
    Begun.Sound ⟨[a], a.toNat - 0xF0, [r, anyTail, anyTail]⟩ := by
  refine ⟨⟨by simp, by simp; omega⟩, ⟨by simp, by simp [anyTail, hr.1]⟩, by simp, ?_⟩
  intro tail hfits
  obtain ⟨b, _, hb, hrest, rfl⟩ := fits_cons_iff.1 hfits
  obtain ⟨c, _, hc, hlast', rfl⟩ := fits_cons_iff.1 hrest
  obtain ⟨d, _, hd, hnil, rfl⟩ := fits_cons_iff.1 hlast'
  cases fits_nil_iff.1 hnil
  rw [Range.holds_iff] at hb
  exact encodeChar_four ha ha' ⟨by omega, by omega⟩ (isTail_of_holds hc) (isTail_of_holds hd)
    (fun h => by have := hlong h; omega) (fun h => by have := hlast h; omega)

/-! ## One byte more -/

theorem covers_char (c : Char) : Covers (encodeChar c) ([.char c], none) := by
  refine ⟨by simp [Piece.bytes, seenOf], by simp [Piece.Sound], ?_⟩
  rintro s ⟨⟩

theorem covers_badStart {b : UInt8} (hb : 0x80 ≤ b.toNat) :
    Covers [b] ([.broken [b] .badStart], none) := by
  refine ⟨by simp [Piece.bytes, seenOf], by simpa [Piece.Sound] using hb, ?_⟩
  rintro s ⟨⟩

theorem covers_begun {s : Begun} (hs : s.Sound) : Covers s.seen ([], some s) := by
  refine ⟨by simp [seenOf], by simp, ?_⟩
  rintro s' ⟨⟩
  exact hs

theorem covers_ite {c : Prop} [Decidable c] {bytes : List UInt8}
    {r r' : List Piece × Option Begun} (hpos : c → Covers bytes r) (hneg : ¬ c → Covers bytes r') :
    Covers bytes (if c then r else r') := by
  by_cases h : c
  · rw [if_pos h]
    exact hpos h
  · rw [if_neg h]
    exact hneg h

/-- The first byte of a sequence is a character, is broken, or begins a sound sequence. -/
theorem covers_start (b : UInt8) : Covers [b] (start b) := by
  have hb := b.toNat_lt
  unfold start
  dsimp only
  refine covers_ite (fun h80 => ?_) fun h80 => ?_
  · have hchar : encodeChar (Char.ofNat b.toNat) = [b] := by
      unfold encodeChar
      rw [toNat_ofNat_of_bounds (by omega)]
      dsimp only
      rw [if_pos h80, UInt8.ofNat_toNat]
    rw [← hchar]
    exact covers_char _
  refine covers_ite (fun _ => covers_badStart (by omega)) fun hC2 => ?_
  refine covers_ite (fun hE0 => covers_begun (sound_two (by omega) hE0)) fun hE0 => ?_
  refine covers_ite (fun h => ?_) fun hE0' => ?_
  · exact covers_begun (sound_three (by omega) (by omega) (by simp) (by simp) (by omega))
  refine covers_ite (fun h => ?_) fun hED => ?_
  · exact covers_begun (sound_three (by omega) (by omega) (by simp) (by omega) (by simp))
  refine covers_ite (fun h => ?_) fun hF0 => ?_
  · exact covers_begun (sound_three (by omega) h (by simp [anyTail]) (by omega) (by omega))
  refine covers_ite (fun h => ?_) fun hF0' => ?_
  · exact covers_begun (sound_four (by omega) (by omega) (by simp) (by simp) (by omega))
  refine covers_ite (fun h => ?_) fun hF4 => ?_
  · exact covers_begun (sound_four (by omega) (by omega) (by simp [anyTail]) (by omega) (by omega))
  refine covers_ite (fun h => ?_) fun _ => covers_badStart (by omega)
  exact covers_begun (sound_four (by omega) (by omega) (by simp) (by omega) (by simp))

theorem Begun.Sound.broken {s : Begun} (hs : s.Sound) (flaw : Flaw) :
    Piece.Sound (.broken s.seen flaw) := by
  have hdue := List.length_pos_iff.2 hs.due.1
  have hshort := hs.short
  exact ⟨hs.seen.1, by omega, hs.seen.2⟩

/-- A byte that does not go on with the sequence starts the next one. -/
theorem Begun.Sound.covers_broken {s : Begun} (hs : s.Sound) (b : UInt8) :
    Covers (s.seen ++ [b]) (s.broken b) := by
  obtain ⟨heq, hpieces, hstate⟩ := covers_start b
  refine ⟨?_, ?_, hstate⟩
  · unfold Begun.broken
    rw [List.flatMap_cons, List.append_assoc, heq]
    rfl
  · exact List.forall_mem_cons.2 ⟨hs.broken _, hpieces⟩

theorem Begun.Sound.covers_next {s : Begun} (hs : s.Sound) (b : UInt8) :
    Covers (s.seen ++ [b]) (s.next b) := by
  obtain ⟨seen, value, due⟩ := s
  cases due with
  | nil => exact absurd rfl hs.due.1
  | cons r more =>
    unfold Begun.next
    dsimp only
    cases hb : r.holds b with
    | false => exact hs.covers_broken b
    | true =>
      have hlow : 0x80 ≤ r.low := hs.due.2 r List.mem_cons_self
      have hends : ∀ tail, Fits more tail → encodeChar
          (Char.ofNat (valueWith (value * 64 + (b.toNat - 0x80)) tail)) = seen ++ [b] ++ tail := by
        intro tail hfits
        have hwhole := hs.ends (b :: tail) (fits_cons_iff.2 ⟨b, tail, hb, hfits, rfl⟩)
        rw [valueWith_cons] at hwhole
        rw [hwhole, List.append_assoc]
        rfl
      cases more with
      | nil =>
        have hchar := hends [] (fits_nil_iff.2 rfl)
        rw [List.append_nil] at hchar
        rw [← hchar]
        exact covers_char _
      | cons next more =>
        have hsound : Begun.Sound
            ⟨seen ++ [b], value * 64 + (b.toNat - 0x80), next :: more⟩ := by
          refine ⟨⟨by simp, ?_⟩, ⟨by simp, ?_⟩, ?_, hends⟩
          · rw [Range.holds_iff] at hb
            intro c hc
            rcases List.mem_append.1 hc with hc | hc
            · exact hs.seen.2 c hc
            · rw [List.mem_singleton.1 hc]
              omega
          · exact fun r hr => hs.due.2 r (List.mem_cons_of_mem _ hr)
          · have hshort := hs.short
            simp only [List.length_append, List.length_cons, List.length_nil] at hshort ⊢
            omega
        exact covers_begun hsound

theorem covers_step {state : Option Begun} (hstate : ∀ s, state = some s → s.Sound) (b : UInt8) :
    Covers (seenOf state ++ [b]) (step state b) := by
  cases state with
  | none => exact covers_start b
  | some s => exact (hstate s rfl).covers_next b

/-! ## Whole byte sequences -/

theorem flatMap_bytes_piecesFrom {state : Option Begun} (hstate : ∀ s, state = some s → s.Sound)
    (bs : List UInt8) :
    (piecesFrom state bs).flatMap Piece.bytes = seenOf state ++ bs ∧
      ∀ p ∈ piecesFrom state bs, p.Sound := by
  induction bs generalizing state with
  | nil =>
    cases state with
    | none => simp [piecesFrom, seenOf]
    | some s =>
      have hbroken := (hstate s rfl).broken .cutOff
      simpa [piecesFrom, seenOf, Piece.bytes] using hbroken
  | cons b bs ih =>
    obtain ⟨heq, hpieces, hnext⟩ := covers_step hstate b
    obtain ⟨hrest, hsound⟩ := ih hnext
    unfold piecesFrom
    constructor
    · rw [List.flatMap_append, hrest, ← List.append_assoc, heq, List.append_assoc]
      rfl
    · exact List.forall_mem_append.2 ⟨hpieces, hsound⟩

/-- The pieces of bytes are the bytes, one piece after the other. -/
theorem flatMap_bytes_pieces (bytes : List UInt8) :
    (pieces bytes).flatMap Piece.bytes = bytes ∧ ∀ p ∈ pieces bytes, p.Sound :=
  flatMap_bytes_piecesFrom (by simp) bytes

/-! ## How many bytes a text takes -/

/-- How many bytes more a mark takes than what it stands for. -/
def Piece.excess : Piece → Nat
  | .char _ => 0
  | .broken bytes _ => 3 - bytes.length

/-- How many bytes more the marks among some pieces take than what they stand for. -/
def excessOf : List Piece → Nat
  | [] => 0
  | p :: ps => p.excess + excessOf ps

/-- How many bytes more all marks take than what they stand for. -/
def excess (bytes : List UInt8) : Nat := excessOf (pieces bytes)

theorem length_encodeChar_shown {p : Piece} (h : p.Sound) :
    (encodeChar p.shown).length = p.bytes.length + p.excess := by
  cases p with
  | char c => rfl
  | broken bytes flaw =>
    have hmark : (encodeChar mark).length = 3 := by decide
    have hshort := h.2.1
    simp only [Piece.shown, Piece.bytes, Piece.excess, hmark]
    omega

theorem length_encode_shown {ps : List Piece} (h : ∀ p ∈ ps, p.Sound) :
    (encode (ps.map Piece.shown)).length =
      (ps.flatMap Piece.bytes).length + excessOf ps := by
  induction ps with
  | nil => rfl
  | cons p ps ih =>
    obtain ⟨hp, hps⟩ := List.forall_mem_cons.1 h
    have hhead := length_encodeChar_shown hp
    have htail := ih hps
    simp only [encode, List.map_cons, List.flatMap_cons, List.length_append, excessOf] at htail ⊢
    omega

theorem length_encode_decodeLossy (bytes : List UInt8) :
    (encode (decodeLossy bytes)).length = bytes.length + excess bytes := by
  obtain ⟨hbytes, hsound⟩ := flatMap_bytes_pieces bytes
  have hlength := length_encode_shown hsound
  rwa [hbytes] at hlength

theorem excess_encode (cs : List Char) : excess (encode cs) = 0 := by
  unfold excess
  rw [pieces_encode]
  induction cs with
  | nil => rfl
  | cons c cs ih => rw [List.map_cons, excessOf, ih]; rfl

end Utf8

/-! ## Neighbours -/

/-- How often the second stands right after the first. -/
def neighbours {α : Type} [BEq α] (a b : α) (xs : List α) : Nat := (xs.zip xs.tail).count (a, b)

section Neighbours

variable {α : Type} [DecidableEq α] {a b : α}

theorem neighbours_cons (x : α) (xs : List α) :
    neighbours a b (x :: xs) = neighbours a b xs + if x = a ∧ xs.head? = some b then 1 else 0 := by
  cases xs with
  | nil => simp [neighbours]
  | cons y ys => simp [neighbours, List.count_cons]

theorem neighbours_cons_of_ne {x : α} (h : x ≠ a) (xs : List α) :
    neighbours a b (x :: xs) = neighbours a b xs := by
  rw [neighbours_cons, if_neg (fun hx => h hx.1), Nat.add_zero]

/-- What does not hold the first of the two adds nothing. -/
theorem neighbours_append_of_notMem {xs : List α} (h : a ∉ xs) (ys : List α) :
    neighbours a b (xs ++ ys) = neighbours a b ys := by
  induction xs with
  | nil => rfl
  | cons x xs ih =>
    obtain ⟨hx, hxs⟩ := not_or.1 (mt List.mem_cons.2 h)
    rw [List.cons_append, neighbours_cons_of_ne (Ne.symm hx), ih hxs]

end Neighbours

/-! ## Line ends -/

namespace Lines

/-- A carriage return and the line feed after it are written as one byte, all else keeps its
bytes. -/
theorem length_encode_unify (cs : List Char) :
    (Utf8.encode (unify cs)).length + neighbours '\r' '\n' cs = (Utf8.encode cs).length := by
  have hreturn : (Utf8.encodeChar '\r').length = 1 := by decide
  have hfeed : (Utf8.encodeChar '\n').length = 1 := by decide
  fun_induction unify cs with
  | case1 => rfl
  | case2 cs ih =>
    rw [neighbours_cons, neighbours_cons_of_ne (by decide), if_pos ⟨rfl, rfl⟩]
    simp only [Utf8.encode, List.flatMap_cons, List.length_append] at ih ⊢
    omega
  | case3 cs hlone ih =>
    have hhead : cs.head? ≠ some '\n' := by
      cases cs with
      | nil => simp
      | cons c cs =>
        rintro ⟨⟩
        exact hlone cs rfl
    rw [neighbours_cons, if_neg (fun h => hhead h.2)]
    simp only [Utf8.encode, List.flatMap_cons, List.length_append] at ih ⊢
    omega
  | case4 c cs _ hc ih =>
    rw [neighbours_cons_of_ne (fun h => hc h)]
    simp only [Utf8.encode, List.flatMap_cons, List.length_append] at ih ⊢
    omega

end Lines

namespace Utf8

theorem Piece.Sound.bytes_ne_nil {p : Piece} (h : p.Sound) : p.bytes ≠ [] := by
  cases p with
  | char c =>
    show encodeChar c ≠ []
    unfold encodeChar
    dsimp only
    split_ifs <;> simp
  | broken bytes flaw => exact h.1

theorem mark_notAscii : ¬ mark.toNat < 0x80 := by decide

/-- An ASCII character is shown exactly for its own byte. -/
theorem Piece.Sound.shown_eq_iff {p : Piece} (h : p.Sound) {a : Char} (ha : a.toNat < 0x80) :
    p.shown = a ↔ UInt8.ofNat a.toNat ∈ p.bytes := by
  cases p with
  | char c => exact (ofNat_mem_encodeChar_iff ha c).symm
  | broken bytes flaw =>
    constructor
    · rintro rfl
      exact absurd ha mark_notAscii
    · intro hmem
      have hle := h.2.2 _ hmem
      rw [toNat_ofNat_of_lt (by omega)] at hle
      omega

theorem Piece.Sound.bytes_eq {p : Piece} (h : p.Sound) {a : Char} (ha : a.toNat < 0x80)
    (hshown : p.shown = a) : p.bytes = [UInt8.ofNat a.toNat] := by
  cases p with
  | char c =>
    cases hshown
    exact encodeChar_of_lt ha
  | broken bytes flaw =>
    cases hshown
    exact absurd ha mark_notAscii

theorem head?_shown_eq_iff {ps : List Piece} (h : ∀ p ∈ ps, p.Sound) {a : Char}
    (ha : a.toNat < 0x80) : (ps.map Piece.shown).head? = some a ↔
      (ps.flatMap Piece.bytes).head? = some (UInt8.ofNat a.toNat) := by
  cases ps with
  | nil => simp
  | cons p ps =>
    have hp := h p List.mem_cons_self
    rw [List.map_cons, List.head?_cons, Option.some.injEq, List.flatMap_cons,
      List.head?_append_of_ne_nil _ hp.bytes_ne_nil]
    constructor
    · intro hshown
      rw [hp.bytes_eq ha hshown]
      rfl
    · intro hhead
      exact (hp.shown_eq_iff ha).2 (List.mem_of_mem_head? hhead)

/-- ASCII characters are neighbours where their bytes are. -/
theorem neighbours_shown {ps : List Piece} (h : ∀ p ∈ ps, p.Sound) {a b : Char}
    (ha : a.toNat < 0x80) (hb : b.toNat < 0x80) : neighbours a b (ps.map Piece.shown) =
      neighbours (UInt8.ofNat a.toNat) (UInt8.ofNat b.toNat) (ps.flatMap Piece.bytes) := by
  induction ps with
  | nil => rfl
  | cons p ps ih =>
    obtain ⟨hp, hps⟩ := List.forall_mem_cons.1 h
    rw [List.map_cons, List.flatMap_cons]
    by_cases hshown : p.shown = a
    · rw [hp.bytes_eq ha hshown, List.singleton_append, neighbours_cons, neighbours_cons, ih hps]
      simp only [hshown, true_and, head?_shown_eq_iff hps hb]
    · rw [neighbours_cons_of_ne hshown,
        neighbours_append_of_notMem (mt (hp.shown_eq_iff ha).2 hshown), ih hps]

def carriageReturn : UInt8 := 13

theorem neighbours_decodeLossy (bytes : List UInt8) :
    neighbours '\r' '\n' (decodeLossy bytes) = neighbours carriageReturn lineFeed bytes := by
  obtain ⟨hbytes, hsound⟩ := flatMap_bytes_pieces bytes
  have hsame := neighbours_shown hsound (a := '\r') (b := '\n') (by decide) (by decide)
  rwa [hbytes] at hsame

/-- The text of a file takes as many bytes as the file, one less for each carriage return right
before a line feed, and some more for each mark. -/
theorem length_encode_unify_decodeLossy (bytes : List UInt8) :
    (encode (Lines.unify (decodeLossy bytes))).length + neighbours carriageReturn lineFeed bytes =
      bytes.length + excess bytes := by
  rw [← neighbours_decodeLossy, Lines.length_encode_unify, length_encode_decodeLossy]

end Utf8

end CodeAtlas
