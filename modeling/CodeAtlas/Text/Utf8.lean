-- UTF-8: the bytes of a text, and reading bytes piece by piece. The bytes of a text stand for that
-- text, and every one of its characters is a piece of its own. Texts from elsewhere may hold
-- surrogates, and then they have no bytes.

namespace CodeAtlas

namespace Utf8

/-! ## Writing -/

/-- The bytes of one character. -/
def encodeChar (c : Char) : List UInt8 :=
  let v := c.toNat
  if v < 0x80 then [.ofNat v]
  else if v < 0x800 then [.ofNat (0xC0 + v / 64), .ofNat (0x80 + v % 64)]
  else if v < 0x10000 then
    [.ofNat (0xE0 + v / 4096), .ofNat (0x80 + v / 64 % 64), .ofNat (0x80 + v % 64)]
  else
    [.ofNat (0xF0 + v / 262144), .ofNat (0x80 + v / 4096 % 64), .ofNat (0x80 + v / 64 % 64),
      .ofNat (0x80 + v % 64)]

/-- The bytes of a text. -/
def encode (cs : List Char) : List UInt8 := cs.flatMap encodeChar

/-! ## Reading -/

/-- The least and the greatest byte that may come next. -/
structure Range where
  low : Nat
  high : Nat
  deriving DecidableEq

/-- The byte lies in the range. -/
def Range.holds (r : Range) (b : UInt8) : Bool := r.low ≤ b.toNat && b.toNat ≤ r.high

/-- A continuation byte with no further condition. -/
def anyTail : Range := ⟨0x80, 0xBF⟩

/-- A sequence that has begun: its bytes so far, the value of their bits, and what must follow. -/
structure Begun where
  seen : List UInt8
  value : Nat
  due : List Range

/-- Why bytes are no UTF-8. -/
inductive Flaw where
  | badStart
  | badTail
  | cutOff
  deriving DecidableEq

/-- A piece of a byte sequence: a character, or the longest run that only begins one. -/
inductive Piece where
  | char (c : Char)
  | broken (bytes : List UInt8) (flaw : Flaw)
  deriving DecidableEq

/-- Reads the first byte of a sequence: the pieces that are complete, and the sequence that has
begun. The ranges leave out overlong forms, surrogates, and values above the last character. -/
def start (b : UInt8) : List Piece × Option Begun :=
  let v := b.toNat
  let due (value : Nat) (ranges : List Range) : List Piece × Option Begun :=
    ([], some ⟨[b], value, ranges⟩)
  if v < 0x80 then ([.char (Char.ofNat v)], none)
  else if v < 0xC2 then ([.broken [b] .badStart], none)
  else if v < 0xE0 then due (v - 0xC0) [anyTail]
  else if v = 0xE0 then due (v - 0xE0) [⟨0xA0, 0xBF⟩, anyTail]
  else if v = 0xED then due (v - 0xE0) [⟨0x80, 0x9F⟩, anyTail]
  else if v < 0xF0 then due (v - 0xE0) [anyTail, anyTail]
  else if v = 0xF0 then due (v - 0xF0) [⟨0x90, 0xBF⟩, anyTail, anyTail]
  else if v < 0xF4 then due (v - 0xF0) [anyTail, anyTail, anyTail]
  else if v = 0xF4 then due (v - 0xF0) [⟨0x80, 0x8F⟩, anyTail, anyTail]
  else ([.broken [b] .badStart], none)

/-- The byte does not go on with the sequence: the sequence is broken, and the byte is read as
the start of the next one. -/
def Begun.broken (s : Begun) (b : UInt8) : List Piece × Option Begun :=
  (.broken s.seen .badTail :: (start b).1, (start b).2)

/-- Reads one byte after a sequence that has begun. -/
def Begun.next (s : Begun) (b : UInt8) : List Piece × Option Begun :=
  match s.due with
  | [] => s.broken b
  | r :: more =>
    let value := s.value * 64 + (b.toNat - 0x80)
    if !r.holds b then s.broken b
    else if more.isEmpty then ([.char (Char.ofNat value)], none)
    else ([], some ⟨s.seen ++ [b], value, more⟩)

/-- Reads one byte: the pieces that are complete with it, and the sequence that goes on. -/
def step : Option Begun → UInt8 → List Piece × Option Begun
  | none, b => start b
  | some s, b => s.next b

/-- Cuts bytes into pieces, going on with a sequence that has begun, if there is one. -/
def piecesFrom (state : Option Begun) : List UInt8 → List Piece
  | [] =>
    match state with
    | none => []
    | some s => [.broken s.seen .cutOff]
  | b :: bs => (step state b).1 ++ piecesFrom (step state b).2 bs

/-- The pieces of a byte sequence. -/
def pieces (bytes : List UInt8) : List Piece := piecesFrom none bytes

/-- The mark that stands for bytes that are no UTF-8. -/
def mark : Char := '\ufffd'

/-- The character shown for a piece. -/
def Piece.shown : Piece → Char
  | .char c => c
  | .broken _ _ => mark

/-- The text of any bytes: one mark stands for each broken piece. -/
def decodeLossy (bytes : List UInt8) : List Char := (pieces bytes).map Piece.shown

/-- Bytes that are no UTF-8: where they stand, and what is wrong with them. -/
structure Fault where
  position : Nat
  bytes : List UInt8
  flaw : Flaw
  deriving DecidableEq

/-- The characters of the pieces, or the first broken one, with `position` bytes before. -/
def charsFrom (position : Nat) : List Piece → Except Fault (List Char)
  | [] => .ok []
  | .char c :: rest =>
    match charsFrom (position + (encodeChar c).length) rest with
    | .ok cs => .ok (c :: cs)
    | .error f => .error f
  | .broken bytes flaw :: _ => .error ⟨position, bytes, flaw⟩

/-- The text of bytes that must be UTF-8 throughout. -/
def decode (bytes : List UInt8) : Except Fault (List Char) := charsFrom 0 (pieces bytes)

/-! ## Wording -/

def Flaw.message : Flaw → String
  | .badStart => "invalid start byte"
  | .badTail => "invalid continuation byte"
  | .cutOff => "unexpected end of data"

/-- A byte as two hexadecimal digits. -/
def hexByte (b : UInt8) : String :=
  let digits := Nat.toDigits 16 b.toNat
  String.ofList (List.replicate (2 - digits.length) '0' ++ digits)

/-- How bytes are told by their place. A single byte is shown, several are given by their
positions. -/
def placeText (position : Nat) : List UInt8 → String
  | [b] => "byte 0x" ++ hexByte b ++ " in position " ++ toString position
  | bytes =>
    "bytes in position " ++ toString position ++ "-" ++ toString (position + bytes.length - 1)

def Fault.message (f : Fault) : String :=
  "'utf-8' codec can't decode " ++ placeText f.position f.bytes ++ ": " ++ f.flaw.message

/-! ## Reading what was written -/

/-- Characters leave out the surrogates and end at the last plane. -/
theorem toNat_bounds (c : Char) :
    c.toNat < 0xD800 ∨ (0xE000 ≤ c.toNat ∧ c.toNat < 0x110000) := by
  have h := c.valid
  simp only [UInt32.isValidChar, Nat.isValidChar] at h
  change c.toNat < _ ∨ _ < c.toNat ∧ c.toNat < _ at h
  omega

/-- Reading the bytes of a character gives the character back, whatever follows. -/
theorem piecesFrom_encodeChar (c : Char) (rest : List UInt8) :
    piecesFrom none (encodeChar c ++ rest) = .char c :: piecesFrom none rest := by
  have hb := toNat_bounds c
  have hc : Char.ofNat c.toNat = c := Char.ofNat_toNat c
  generalize hv : c.toNat = v at *
  unfold encodeChar
  simp only [hv]
  split
  · have e : v % 256 = v := by omega
    simp [piecesFrom, step, start, *]
  split
  · have e1 : (192 + v / 64) % 256 = 192 + v / 64 := by omega
    have e2 : (128 + v % 64) % 256 = 128 + v % 64 := by omega
    have c1 : ¬ (192 + v / 64 < 128) := by omega
    have c2 : ¬ (192 + v / 64 < 194) := by omega
    have c3 : 192 + v / 64 < 224 := by omega
    have c4 : 128 + v % 64 ≤ 191 := by omega
    have c5 : v / 64 * 64 + v % 64 = v := by omega
    simp [piecesFrom, step, start, Begun.next, anyTail, Range.holds, e1, e2, c1, c2, c3, c4, c5, hc]
  split
  · have e1 : (224 + v / 4096) % 256 = 224 + v / 4096 := by omega
    have e2 : (128 + v / 64 % 64) % 256 = 128 + v / 64 % 64 := by omega
    have e3 : (128 + v % 64) % 256 = 128 + v % 64 := by omega
    have c1 : ¬ (224 + v / 4096 < 128) := by omega
    have c2 : ¬ (224 + v / 4096 < 194) := by omega
    have c3 : ¬ (224 + v / 4096 < 224) := by omega
    have c4 : 224 + v / 4096 < 240 := by omega
    have t1 : 128 + v / 64 % 64 ≤ 191 := by omega
    have t2 : 128 + v % 64 ≤ 191 := by omega
    have s : (v / 4096 * 64 + v / 64 % 64) * 64 + v % 64 = v := by omega
    by_cases h0 : v / 4096 = 0
    · have low : 160 ≤ 128 + v / 64 % 64 := by omega
      have s' : v / 64 % 64 * 64 + v % 64 = v := by omega
      simp [piecesFrom, step, start, Begun.next, anyTail, Range.holds, e2, e3, t1, t2, h0, low,
        s', hc]
    · by_cases hd : v / 4096 = 13
      · have high : 128 + v / 64 % 64 ≤ 159 := by omega
        have s' : (832 + v / 64 % 64) * 64 + v % 64 = v := by omega
        simp [piecesFrom, step, start, Begun.next, anyTail, Range.holds, e2, e3, t2, hd, high,
          s', hc]
      · have n0 : ¬ (224 + v / 4096 = 224) := by omega
        have nd : ¬ (224 + v / 4096 = 237) := by omega
        simp [piecesFrom, step, start, Begun.next, anyTail, Range.holds, e1, e2, e3, c1, c2, c3, c4,
          t1, t2, nd, h0, s, hc]
  · have e1 : (240 + v / 262144) % 256 = 240 + v / 262144 := by omega
    have e2 : (128 + v / 4096 % 64) % 256 = 128 + v / 4096 % 64 := by omega
    have e3 : (128 + v / 64 % 64) % 256 = 128 + v / 64 % 64 := by omega
    have e4 : (128 + v % 64) % 256 = 128 + v % 64 := by omega
    have t1 : 128 + v / 4096 % 64 ≤ 191 := by omega
    have t2 : 128 + v / 64 % 64 ≤ 191 := by omega
    have t3 : 128 + v % 64 ≤ 191 := by omega
    have s : ((v / 262144 * 64 + v / 4096 % 64) * 64 + v / 64 % 64) * 64 + v % 64 = v := by omega
    by_cases h0 : v / 262144 = 0
    · have low : 144 ≤ 128 + v / 4096 % 64 := by omega
      have s' : (v / 4096 % 64 * 64 + v / 64 % 64) * 64 + v % 64 = v := by omega
      simp [piecesFrom, step, start, Begun.next, anyTail, Range.holds, e2, e3, e4, t1, t2, t3, h0,
        low, s', hc]
    · by_cases h4 : v / 262144 = 4
      · have high : 128 + v / 4096 % 64 ≤ 143 := by omega
        have s' : ((256 + v / 4096 % 64) * 64 + v / 64 % 64) * 64 + v % 64 = v := by omega
        simp [piecesFrom, step, start, Begun.next, anyTail, Range.holds, e2, e3, e4, t2, t3, h4,
          high, s', hc]
      · have c1 : ¬ (240 + v / 262144 < 128) := by omega
        have c2 : ¬ (240 + v / 262144 < 194) := by omega
        have c3 : ¬ (240 + v / 262144 < 224) := by omega
        have c4 : ¬ (240 + v / 262144 < 240) := by omega
        have c5 : 240 + v / 262144 < 244 := by omega
        have n0 : ¬ (240 + v / 262144 = 224) := by omega
        have nd : ¬ (240 + v / 262144 = 237) := by omega
        simp [piecesFrom, step, start, Begun.next, anyTail, Range.holds, e1, e2, e3, e4, c1, c2, c3,
          c4, c5, n0, nd, h0, t1, t2, t3, s, hc]

/-- The pieces of the bytes of a text are its characters. -/
theorem pieces_encode (cs : List Char) : pieces (encode cs) = cs.map .char := by
  unfold pieces encode
  induction cs with
  | nil => rfl
  | cons c cs ih => rw [List.flatMap_cons, piecesFrom_encodeChar, ih, List.map_cons]

/-- The bytes of a text stand for the text. -/
theorem decodeLossy_encode (cs : List Char) : decodeLossy (encode cs) = cs := by
  unfold decodeLossy
  rw [pieces_encode, List.map_map]
  exact List.map_id cs

end Utf8

/-! ## Texts with surrogates -/

/-- A character, or a surrogate, which stands for none. Surrogates are counted from the first. -/
inductive RawChar where
  | char (c : Char)
  | surrogate (n : Fin 0x800)
  deriving DecidableEq

/-- A text as it comes from elsewhere. -/
structure RawText where
  chars : List RawChar
  deriving DecidableEq

/-- Surrogates that cannot be encoded: how many characters come before them, the first of them, and
how many there are. -/
structure EncodeFault where
  position : Nat
  first : Fin 0x800
  count : Nat
  deriving DecidableEq

/-- What is said of a fault. A single surrogate is shown, several are given by their positions. -/
def EncodeFault.message (f : EncodeFault) : String :=
  let place :=
    if f.count = 1 then
      "character '\\u" ++ String.ofList (Nat.toDigits 16 (0xD800 + f.first)) ++ "' in position " ++
        toString f.position
    else
      "characters in position " ++ toString f.position ++ "-" ++
        toString (f.position + f.count - 1)
  "'utf-8' codec can't encode " ++ place ++ ": surrogates not allowed"

namespace RawText

/-- A text without surrogates. -/
def ofString (s : String) : RawText := ⟨s.toList.map .char⟩

instance : Coe String RawText := ⟨ofString⟩

/-- How many surrogates come first. -/
def surrogates : List RawChar → Nat
  | .surrogate _ :: rest => surrogates rest + 1
  | _ => 0

/-- The characters, or the first surrogates, with `position` characters before. -/
def charsFrom (position : Nat) : List RawChar → Except EncodeFault (List Char)
  | [] => .ok []
  | .char c :: rest => (charsFrom (position + 1) rest).map (c :: ·)
  | .surrogate n :: rest => .error ⟨position, n, surrogates rest + 1⟩

/-- The text, if it has no surrogates. -/
def string (t : RawText) : Except EncodeFault String := (charsFrom 0 t.chars).map String.ofList

theorem charsFrom_eq_ok_iff (position : Nat) (raw : List RawChar) (cs : List Char) :
    charsFrom position raw = .ok cs ↔ raw = cs.map .char := by
  induction raw generalizing position cs with
  | nil => cases cs <;> simp [charsFrom]
  | cons r raw ih =>
    cases r with
    | surrogate n => cases cs <;> simp [charsFrom]
    | char c =>
      have htail := ih (position + 1)
      cases hrest : charsFrom (position + 1) raw with
      | error f =>
        have hnone : ∀ ds : List Char, raw ≠ ds.map .char := by
          intro ds hds
          cases hrest.symm.trans ((htail ds).2 hds)
        cases cs <;> simp [charsFrom, hrest, Except.map, hnone]
      | ok ds =>
        cases cs with
        | nil => simp [charsFrom, hrest, Except.map]
        | cons d cs => simp [charsFrom, hrest, Except.map, ← htail cs]

/-- A text without surrogates is all that can be encoded. -/
theorem string_eq_ok_iff (t : RawText) (s : String) : t.string = .ok s ↔ t = ofString s := by
  obtain ⟨chars⟩ := t
  unfold string ofString
  rw [RawText.mk.injEq, ← charsFrom_eq_ok_iff 0]
  cases charsFrom 0 chars with
  | error f => simp [Except.map]
  | ok cs => simp [Except.map, ← String.toList_inj]

theorem string_ofString (s : String) : (ofString s).string = .ok s :=
  (string_eq_ok_iff _ s).2 rfl

theorem ofString_inj {s t : String} : ofString s = ofString t ↔ s = t := by
  rw [← string_eq_ok_iff, string_ofString, Except.ok.injEq]

end RawText

end CodeAtlas
