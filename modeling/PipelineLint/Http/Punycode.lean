/-!
# Characters outside ASCII in ASCII

A text is written as its ASCII characters, followed by the places of the others. Those are taken in
the order of their code points, and each is written as the distance from the one before, counted in
places that a character could be put at. The digits of a distance adapt to the size of the distances
before. The main statement of this module is that reading a distance makes the text shorter, so that
reading a whole text ends.

## Main definitions

* `Http.Punycode.encode` — a text in ASCII
* `Http.Punycode.decode?` — the text that some ASCII characters denote
-/

namespace PipelineLint.Http.Punycode

/-! ## Digits -/

/-- The digit of a value below 36: letters first. -/
def digit (n : Nat) : Char :=
  if n < 26 then Char.ofNat (0x61 + n) else Char.ofNat (0x30 + n - 26)

/-- The value of a digit in lower case. -/
def digitValue? (c : Char) : Option Nat :=
  if c.isLower then some (c.toNat - 0x61)
  else if c.isDigit then some (c.toNat - 0x30 + 26)
  else none

/-- The least value of the digit at a position that is not the last one of its number. -/
def threshold (position bias : Nat) : Nat :=
  if position ≤ bias then 1 else if bias + 26 ≤ position then 26 else position - bias

theorem one_le_threshold (position bias : Nat) : 1 ≤ threshold position bias := by
  unfold threshold
  split
  · exact Nat.le_refl 1
  · split <;> omega

/-- Divides `delta` by 35 until it is small; counts the divisions in steps of 36. -/
def shrink (delta steps : Nat) : Nat × Nat :=
  if 455 < delta then shrink (delta / 35) (steps + 36) else (delta, steps)
termination_by delta

/-- The bias behind a distance, with `count` characters written in all. -/
def adapt (delta count : Nat) (first : Bool) : Nat :=
  let delta := if first then delta / 700 else delta / 2
  let (delta, steps) := shrink (delta + delta / count) 0
  steps + 36 * delta / (delta + 38)

/-! ## Writing -/

/-- The digits of `n`, from `position` on. -/
def digits (bias position n : Nat) : List Char :=
  let t := threshold position bias
  if n < t then [digit n]
  else digit (t + (n - t) % (36 - t)) :: digits bias (position + 36) ((n - t) / (36 - t))
termination_by n
decreasing_by
  have hpos := one_le_threshold position bias
  exact Nat.lt_of_le_of_lt (Nat.div_le_self ..) (by omega)

/-- What has been written of a text. -/
structure State where
  output : List Char
  delta : Nat
  bias : Nat
  /-- The number of characters that are written. -/
  written : Nat

/-- Goes over one character of the text while those of code point `n` are written. -/
def visit (basic n : Nat) (st : State) (c : Char) : State :=
  if c.toNat < n then { st with delta := st.delta + 1 }
  else if c.toNat = n then
    { output := st.output ++ digits st.bias 36 st.delta
      delta := 0
      bias := adapt st.delta (st.written + 1) (st.written == basic)
      written := st.written + 1 }
  else st

/-- Writes the characters of the given code points, in ascending order; all below `next` are
written. -/
def writeAll (text : List Char) (basic : Nat) : Nat → List Nat → State → State
  | _, [], st => st
  | next, n :: more, st =>
    let st := { st with delta := st.delta + (n - next) * (st.written + 1) }
    let st := text.foldl (visit basic n) st
    writeAll text basic (n + 1) more { st with delta := st.delta + 1 }

/-- A text in ASCII. -/
def encode (text : List Char) : List Char :=
  let ascii := text.filter fun c => c.toNat < 0x80
  let others := ((text.filter fun c => 0x80 ≤ c.toNat).map Char.toNat).mergeSort
  let start : State := ⟨ascii ++ (if ascii.isEmpty then [] else ['-']), 0, 72, ascii.length⟩
  (writeAll text ascii.length 0x80 others.eraseDups start).output

/-! ## Reading -/

/-- The least number that is too large for a distance. -/
def limit : Nat := 0x100000000

/-- Adds to `n` the number that starts with a digit of this position and weight. -/
def addNumber? (bias : Nat) : Nat → Nat → Nat → List Char → Option (Nat × List Char)
  | _, _, _, [] => none
  | position, weight, n, c :: s =>
    match digitValue? c with
    | none => none
    | some d =>
      let t := threshold position bias
      let n := n + d * weight
      if limit ≤ n then none
      else if d < t then some (n, s)
      else if limit ≤ weight * (36 - t) then none
      else addNumber? bias (position + 36) (weight * (36 - t)) n s

theorem length_of_addNumber?_eq_some {bias position weight n m : Nat} {s rest : List Char}
    (h : addNumber? bias position weight n s = some (m, rest)) : rest.length < s.length := by
  induction s generalizing position weight n with
  | nil => simp [addNumber?] at h
  | cons c s ih =>
    rw [addNumber?] at h
    split at h
    · cases h
    · dsimp only at h
      split at h
      · cases h
      · split at h
        · obtain ⟨rfl, rfl⟩ : _ = m ∧ s = rest := by simpa using h
          exact Nat.lt_succ_self _
        · split at h
          · cases h
          · exact Nat.lt_succ_of_lt (ih h)

/-- Puts the characters at the places that `s` tells into a text. The last one that was put there
has code point `n` and stands before place `place`. -/
def insertAll? (bias n place : Nat) (text s : List Char) : Option (List Char) :=
  if s.isEmpty then some text
  else
    match h : addNumber? bias 36 1 place s with
    | none => none
    | some (distance, rest) =>
      have : rest.length < s.length := length_of_addNumber?_eq_some h
      let count := text.length + 1
      let n := n + distance / count
      if n.isValidChar then
        insertAll? (adapt (distance - place) count (place == 0)) n (distance % count + 1)
          (text.insertIdx (distance % count) (Char.ofNat n)) rest
      else none
termination_by s.length

/-- The text that some ASCII characters denote. The last hyphen stands behind its ASCII characters,
if there are any. -/
def decode? (s : List Char) : Option (List Char) :=
  let places := (s.reverse.takeWhile (· != '-')).reverse
  let ascii := s.take (s.length - places.length - 1)
  insertAll? 72 0x80 0 ascii (if ascii.isEmpty then s else places)

end PipelineLint.Http.Punycode
