-- Punycode: characters beyond ASCII written in ASCII. The ASCII characters come first and as
-- they are; the others follow, the lowest first, each as a number that says how far it is from
-- the one before. Few digits are used for what is near.

namespace CodeAtlas.Punycode

/-! ## Digits -/

def base : Nat := 36

/-- The digits are the small letters, and after them the decimal digits. -/
def digit (d : Nat) : Char := Char.ofNat (if d < 26 then 'a'.toNat + d else '0'.toNat + (d - 26))

/-- The value of a digit. -/
def value? (c : Char) : Option Nat :=
  if c.isLower then some (c.toNat - 'a'.toNat)
  else if c.isDigit then some (c.toNat - '0'.toNat + 26)
  else none

/-- A digit below the threshold of its place ends a number. -/
def threshold (bias place : Nat) : Nat := min 26 (max 1 (base * (place + 1) - bias))

theorem threshold_pos (bias place : Nat) : 1 ≤ threshold bias place := by
  unfold threshold
  omega

/-! ## Bias -/

/-- Brings a step down until it is small, and counts how often. -/
def damp (step count : Nat) : Nat × Nat :=
  if 455 < step then damp (step / 35) (count + 1) else (step, count)
termination_by step
decreasing_by exact Nat.div_lt_self (by omega) (by omega)

/-- The bias after a step, when there are so many characters. The first step is a long one. -/
def adapt (step size : Nat) (first : Bool) : Nat :=
  let start := if first then step / 700 else step / 2
  let (small, count) := damp (start + start / size) 0
  base * count + base * small / (small + 38)

/-- The bias before the first step. -/
def firstBias : Nat := 72

/-! ## Writing -/

/-- The digits of a number from a place on. -/
def digits (bias place n : Nat) : List Char :=
  let t := threshold bias place
  if n < t then [digit n]
  else digit (t + (n - t) % (base - t)) :: digits bias (place + 1) ((n - t) / (base - t))
termination_by n
decreasing_by
  have h := threshold_pos bias place
  have := Nat.div_le_self (n - threshold bias place) (base - threshold bias place)
  omega

/-- How far the writing has come: what is written, the step that has run up since, the bias, and
how many characters are placed. -/
structure Writing where
  written : List Char
  step : Nat
  bias : Nat
  placed : Nat

/-- Passes a character of the text while those with the number `n` are written. -/
def Writing.pass (basic n : Nat) (w : Writing) (c : Char) : Writing :=
  if c.toNat < n then { w with step := w.step + 1 }
  else if c.toNat = n then
    { written := w.written ++ digits w.bias 0 w.step
      step := 0
      bias := adapt w.step (w.placed + 1) (w.placed = basic)
      placed := w.placed + 1 }
  else w

/-- Writes the characters with these numbers, in increasing order. The numbers below `low` are
done. -/
def Writing.all (cs : List Char) (basic low : Nat) (w : Writing) : List Nat → Writing
  | [] => w
  | n :: ns =>
    let ready := { w with step := w.step + (n - low) * (w.placed + 1) }
    let passed := cs.foldl (Writing.pass basic n) ready
    Writing.all cs basic (n + 1) { passed with step := passed.step + 1 } ns

/-- The text in ASCII. -/
def encode (cs : List Char) : List Char :=
  let basic := cs.filter fun c => c.toNat < 0x80
  let others := ((cs.map Char.toNat).filter fun n => 0x80 ≤ n).eraseDups.mergeSort (· ≤ ·)
  let w := Writing.all cs basic.length 0x80 ⟨[], 0, firstBias, basic.length⟩ others
  basic ++ (if basic.isEmpty then [] else ['-']) ++ w.written

/-! ## Reading -/

/-- Reads a number from a place on, where a digit has some weight, and gives what follows it. -/
def number (bias place weight sum : Nat) : List Char → Option (Nat × List Char)
  | [] => none
  | c :: cs =>
    match value? c with
    | none => none
    | some d =>
      let t := threshold bias place
      if d < t then some (sum + d * weight, cs)
      else number bias (place + 1) (weight * (base - t)) (sum + d * weight) cs

/-- Something is read for every number. -/
theorem length_lt_of_number {bias place weight sum n : Nat} {cs rest : List Char}
    (h : number bias place weight sum cs = some (n, rest)) : rest.length < cs.length := by
  induction cs generalizing place weight sum with
  | nil => simp [number] at h
  | cons c cs ih =>
    unfold number at h
    split at h
    · simp at h
    · dsimp only at h
      split at h
      · simp only [Option.some.injEq, Prod.mk.injEq] at h
        simp [← h.2]
      · have := ih h
        simp only [List.length_cons]
        omega

/-- Reads the steps, and puts in a character for each of them. The last one had the number `n`,
and stood before the place `i`. -/
def insert (bias n i : Nat) (first : Bool) (placed cs : List Char) : Option (List Char) :=
  if cs.isEmpty then some placed
  else
    match _h : number bias 0 1 0 cs with
    | none => none
    | some (step, rest) =>
      let size := placed.length + 1
      let n := n + (i + step) / size
      let i := (i + step) % size
      if n.isValidChar then
        insert (adapt step size first) n (i + 1) false
          (placed.take i ++ Char.ofNat n :: placed.drop i) rest
      else none
termination_by cs.length
decreasing_by exact length_lt_of_number _h

/-- The text that was written in ASCII. Its last hyphen ends the ASCII characters if there are
any. -/
def decode (cs : List Char) : Option (List Char) :=
  let steps := (cs.reverse.takeWhile (· ≠ '-')).reverse
  let basic := cs.take (cs.length - steps.length - 1)
  if basic.isEmpty then insert firstBias 0x80 0 true [] cs
  else insert firstBias 0x80 0 true basic steps

end CodeAtlas.Punycode
