import Mathlib.Order.Bounds.Defs
import Mathlib.Tactic.SplitIfs
import PipelineLint.Text.Utf8

/-!
# UTF-8 is read as it is written

Writing is given for single characters and is arithmetic on a code point. Reading looks at one byte
after the other, and its bounds on the second byte are arithmetic, too, only on the bytes. The two
meet at the number that the bytes of a character make: a sequence of one to four bytes is the
encoding of a character exactly when the reader accepts it, and the character is the one that the
reader assembles. Everything else here follows from these four equivalences without a look at a
byte.

## Where a sequence stops being text

A prefix is text when it is the encoding of something. The reader stops at the first broken part,
and no longer prefix is text: a text that reached further would make the reader go on, because what
is read of a text does not depend on what follows it.

## Main definitions

* `Text.Utf8.Lead.Admits` — a byte may follow a first byte
* `Text.Utf8.number` — the number that the bytes of a character make

## Main results

* `Text.Utf8.utf8EncodeChar_eq_one_iff` and the three after it — the encodings of each length
* `Text.Utf8.pieces_encode_append`, `Text.Utf8.exists_of_pieces_eq` — reading undoes writing, and
  reads nothing else
* `Text.Utf8.decode_eq_ok_iff` — a sequence decodes to a text exactly when it is its encoding
* `Text.Utf8.isGreatest_of_decode_eq_error` — where decoding stops
-/

namespace PipelineLint.Text

/-! ## Code points -/

theorem toNat_ofNat {n : Nat} (h : n.isValidChar) : (Char.ofNat n).toNat = n := by
  rw [Char.ofNat, dif_pos h]
  rfl

theorem eq_ofNat_iff {c : Char} {n : Nat} (h : n.isValidChar) :
    c = Char.ofNat n ↔ c.toNat = n :=
  ⟨fun hc => hc ▸ toNat_ofNat h, fun hn => hn ▸ (Char.ofNat_toNat c).symm⟩

namespace Utf8

/-! ## Bytes -/

/-- `n` bytes follow, and `b` may be the first of them. -/
def Lead.Admits (n : Nat) (b : UInt8) : Lead → Prop
  | .more tails low high => tails = n ∧ low ≤ b ∧ b ≤ high
  | .whole | .never => False

theorem Lead.Admits.exists_eq {n : Nat} {b : UInt8} {lead : Lead} (h : lead.Admits n b) :
    ∃ low high, lead = .more n low high ∧ low ≤ b ∧ b ≤ high := by
  cases lead with
  | more tails low high =>
    obtain ⟨rfl, hlow, hhigh⟩ := h
    exact ⟨low, high, rfl, hlow, hhigh⟩
  | whole => cases h
  | never => cases h

theorem ofByte_eq_whole_iff {a : UInt8} : Lead.ofByte a = .whole ↔ a.toNat ≤ 0x7F := by
  simp only [Lead.ofByte, UInt8.le_iff_toNat_le, UInt8.reduceToNat]
  split_ifs <;> simp_all

theorem admits_ofByte_iff {a b : UInt8} {n : Nat} :
    (Lead.ofByte a).Admits n b ↔ 0x80 ≤ b.toNat ∧ b.toNat ≤ 0xBF ∧
      (n = 1 ∧ 0xC2 ≤ a.toNat ∧ a.toNat ≤ 0xDF ∨
        n = 2 ∧ 0xE0 ≤ a.toNat ∧ a.toNat ≤ 0xEF ∧
          (a.toNat = 0xE0 → 0xA0 ≤ b.toNat) ∧ (a.toNat = 0xED → b.toNat ≤ 0x9F) ∨
        n = 3 ∧ 0xF0 ≤ a.toNat ∧ a.toNat ≤ 0xF4 ∧
          (a.toNat = 0xF0 → 0x90 ≤ b.toNat) ∧ (a.toNat = 0xF4 → b.toNat ≤ 0x8F)) := by
  simp only [Lead.ofByte, UInt8.le_iff_toNat_le, beq_iff_eq, ← UInt8.toNat_inj, UInt8.reduceToNat]
  split_ifs <;>
    simp only [Lead.Admits, UInt8.le_iff_toNat_le, UInt8.reduceToNat, false_iff] <;> omega

theorem isTail_eq_true_iff {b : UInt8} : isTail b = true ↔ 0x80 ≤ b.toNat ∧ b.toNat ≤ 0xBF := by
  simp [isTail, UInt8.le_iff_toNat_le]

/-- The number that `n` and the lowest six bits of each of `tails` make. -/
def number (n : Nat) (tails : List UInt8) : Nat :=
  tails.foldl (fun n t => 64 * n + t.toNat % 64) n

theorem assemble_eq (a mask : UInt8) {m : Nat} (hmask : ∀ n, n &&& mask.toNat = n % m)
    (tails : List UInt8) : assemble a mask tails = Char.ofNat (number (a.toNat % m) tails) := by
  have htail : (fun n (t : UInt8) => 64 * n + (t &&& 0x3F).toNat) =
      fun n t => 64 * n + t.toNat % 64 := by
    funext n t
    have hsix : t.toNat &&& 0x3F = t.toNat % 64 := Nat.and_two_pow_sub_one_eq_mod t.toNat 6
    rw [UInt8.toNat_and, ← hsix]
    rfl
  rw [assemble, UInt8.toNat_and, hmask, htail, number]

/-! ## One character -/

section

variable {x : Char} {a b c d : UInt8}

theorem utf8EncodeChar_eq_one_iff :
    String.utf8EncodeChar x = [a] ↔ Lead.ofByte a = .whole ∧ x = Char.ofNat a.toNat := by
  have hval : x.val.toNat = x.toNat := rfl
  have hchar (ha : a.toNat ≤ 0x7F) : x = Char.ofNat a.toNat ↔ x.toNat = a.toNat :=
    eq_ofNat_iff (.inl (by omega))
  rw [ofByte_eq_whole_iff, and_congr_right hchar, String.utf8EncodeChar, hval]
  split_ifs
  · simp only [List.cons.injEq, and_true, ← UInt8.toNat_inj, UInt8.toNat_ofNat']
    omega
  all_goals exact iff_of_false (by simp) (by omega)

theorem utf8EncodeChar_eq_two_iff :
    String.utf8EncodeChar x = [a, b] ↔
      (Lead.ofByte a).Admits 1 b ∧ x = assemble a 0x1F [b] := by
  have hval : x.val.toNat = x.toNat := rfl
  have hchar (h : (Lead.ofByte a).Admits 1 b) :
      x = assemble a 0x1F [b] ↔ x.toNat = 64 * (a.toNat % 32) + b.toNat % 64 := by
    rw [assemble_eq a 0x1F (m := 32) (Nat.and_two_pow_sub_one_eq_mod · 5)]
    exact eq_ofNat_iff (.inl (by simp only [number, List.foldl]; omega))
  rw [and_congr_right hchar, admits_ofByte_iff, String.utf8EncodeChar, hval]
  simp only [Nat.reduceEqDiff, true_and, false_and, or_false]
  generalize x.toNat = v at *
  split_ifs
  · exact iff_of_false (by simp) (by omega)
  · simp (disch := omega) only [List.cons.injEq, and_true, ← UInt8.toNat_inj, UInt8.toNat_ofNat',
      Nat.mod_eq_of_lt]
    constructor
    · rintro ⟨ha, hb⟩
      have hfirst : a.toNat % 32 = v / 64 := by omega
      have hsecond : b.toNat % 64 = v % 64 := by omega
      rw [hfirst, hsecond]
      omega
    · rintro ⟨h, hv⟩
      have hfirst : a.toNat % 32 + 192 = a.toNat := by omega
      have hsecond : b.toNat % 64 + 128 = b.toNat := by omega
      omega
  all_goals exact iff_of_false (by simp) (by omega)

theorem utf8EncodeChar_eq_three_iff :
    String.utf8EncodeChar x = [a, b, c] ↔
      ((Lead.ofByte a).Admits 2 b ∧ isTail c = true) ∧ x = assemble a 0x0F [b, c] := by
  have hval : x.val.toNat = x.toNat := rfl
  have hvalid : x.toNat.isValidChar := x.valid
  have hchar (h : (Lead.ofByte a).Admits 2 b ∧ isTail c = true) :
      x = assemble a 0x0F [b, c] ↔
        x.toNat = 64 * (64 * (a.toNat % 16) + b.toNat % 64) + c.toNat % 64 := by
    rw [assemble_eq a 0x0F (m := 16) (Nat.and_two_pow_sub_one_eq_mod · 4)]
    refine eq_ofNat_iff ?_
    have hadmits := admits_ofByte_iff.mp h.1
    simp only [number, List.foldl, Nat.isValidChar]
    omega
  rw [and_congr_right hchar, admits_ofByte_iff, isTail_eq_true_iff, String.utf8EncodeChar, hval]
  simp only [Nat.reduceEqDiff, true_and, false_and, or_false, false_or]
  rw [Nat.isValidChar] at hvalid
  generalize x.toNat = v at *
  split_ifs
  · exact iff_of_false (by simp) (by omega)
  · exact iff_of_false (by simp) (by omega)
  · simp (disch := omega) only [List.cons.injEq, and_true, ← UInt8.toNat_inj, UInt8.toNat_ofNat',
      Nat.mod_eq_of_lt]
    constructor
    · rintro ⟨ha, hb, hc⟩
      have hfirst : a.toNat % 16 = v / 4096 := by omega
      have hsecond : b.toNat % 64 = v / 64 % 64 := by omega
      have hthird : c.toNat % 64 = v % 64 := by omega
      rw [hfirst, hsecond, hthird]
      omega
    · rintro ⟨h, hv⟩
      have hfirst : a.toNat % 16 + 224 = a.toNat := by omega
      have hsecond : b.toNat % 64 + 128 = b.toNat := by omega
      have hthird : c.toNat % 64 + 128 = c.toNat := by omega
      omega
  · exact iff_of_false (by simp) (by omega)

theorem utf8EncodeChar_eq_four_iff :
    String.utf8EncodeChar x = [a, b, c, d] ↔
      ((Lead.ofByte a).Admits 3 b ∧ isTail c = true ∧ isTail d = true) ∧
        x = assemble a 0x07 [b, c, d] := by
  have hval : x.val.toNat = x.toNat := rfl
  have hvalid : x.toNat.isValidChar := x.valid
  have hchar (h : (Lead.ofByte a).Admits 3 b ∧ isTail c = true ∧ isTail d = true) :
      x = assemble a 0x07 [b, c, d] ↔ x.toNat =
        64 * (64 * (64 * (a.toNat % 8) + b.toNat % 64) + c.toNat % 64) + d.toNat % 64 := by
    rw [assemble_eq a 0x07 (m := 8) (Nat.and_two_pow_sub_one_eq_mod · 3)]
    refine eq_ofNat_iff ?_
    have hadmits := admits_ofByte_iff.mp h.1
    simp only [number, List.foldl, Nat.isValidChar]
    omega
  rw [and_congr_right hchar, admits_ofByte_iff, isTail_eq_true_iff, isTail_eq_true_iff,
    String.utf8EncodeChar, hval]
  simp only [Nat.reduceEqDiff, true_and, false_and, false_or]
  rw [Nat.isValidChar] at hvalid
  generalize x.toNat = v at *
  split_ifs
  · exact iff_of_false (by simp) (by omega)
  · exact iff_of_false (by simp) (by omega)
  · exact iff_of_false (by simp) (by omega)
  · simp (disch := omega) only [List.cons.injEq, and_true, ← UInt8.toNat_inj, UInt8.toNat_ofNat',
      Nat.mod_eq_of_lt]
    constructor
    · rintro ⟨ha, hb, hc, hd⟩
      have hfirst : a.toNat % 8 = v / 262144 := by omega
      have hsecond : b.toNat % 64 = v / 4096 % 64 := by omega
      have hthird : c.toNat % 64 = v / 64 % 64 := by omega
      have hfourth : d.toNat % 64 = v % 64 := by omega
      rw [hfirst, hsecond, hthird, hfourth]
      omega
    · rintro ⟨h, hv⟩
      have hfirst : a.toNat % 8 + 240 = a.toNat := by omega
      have hsecond : b.toNat % 64 + 128 = b.toNat := by omega
      have hthird : c.toNat % 64 + 128 = c.toNat := by omega
      have hfourth : d.toNat % 64 + 128 = d.toNat := by omega
      omega

end

/-! ## Reading what was written -/

theorem pieces_utf8EncodeChar_append (x : Char) (rest : List UInt8) :
    pieces (String.utf8EncodeChar x ++ rest) = .char x :: pieces rest := by
  have hlength := String.length_utf8EncodeChar x
  have hpos := x.utf8Size_pos
  have hfour := x.utf8Size_le_four
  match h : String.utf8EncodeChar x with
  | [] =>
    rw [h, List.length_nil] at hlength
    omega
  | [a] =>
    obtain ⟨hlead, hx⟩ := utf8EncodeChar_eq_one_iff.mp h
    simp [pieces, hlead, hx]
  | [a, b] =>
    obtain ⟨hadmits, hx⟩ := utf8EncodeChar_eq_two_iff.mp h
    obtain ⟨low, high, hlead, hlow, hhigh⟩ := hadmits.exists_eq
    simp [pieces, hlead, hlow, hhigh, hx]
  | [a, b, c] =>
    obtain ⟨⟨hadmits, hc⟩, hx⟩ := utf8EncodeChar_eq_three_iff.mp h
    obtain ⟨low, high, hlead, hlow, hhigh⟩ := hadmits.exists_eq
    simp [pieces, hlead, hlow, hhigh, hc, hx]
  | [a, b, c, d] =>
    obtain ⟨⟨hadmits, hc, hd⟩, hx⟩ := utf8EncodeChar_eq_four_iff.mp h
    obtain ⟨low, high, hlead, hlow, hhigh⟩ := hadmits.exists_eq
    simp [pieces, hlead, hlow, hhigh, hc, hd, hx]
  | a :: b :: c :: d :: e :: more =>
    rw [h] at hlength
    simp only [List.length_cons] at hlength
    omega

/-- Only what was written is read as a character. -/
theorem exists_of_pieces_eq {bytes : List UInt8} {x : Char} {ps : List Piece}
    (h : pieces bytes = .char x :: ps) :
    ∃ rest, bytes = String.utf8EncodeChar x ++ rest ∧ ps = pieces rest := by
  have hadmits {a b low high : UInt8} {n : Nat} (hlead : Lead.ofByte a = .more n low high)
      (hb : (low ≤ b && b ≤ high) = true) : (Lead.ofByte a).Admits n b := by
    rw [hlead]
    exact ⟨rfl, by simpa using hb⟩
  fun_cases pieces bytes
  case case2 a rest hlead =>
    obtain ⟨rfl, rfl⟩ : Char.ofNat a.toNat = x ∧ pieces rest = ps := by
      simpa [pieces, hlead] using h
    refine ⟨rest, ?_, rfl⟩
    rw [utf8EncodeChar_eq_one_iff.mpr ⟨hlead, rfl⟩, List.singleton_append]
  case case5 a n low high hlead b rest hb hn =>
    obtain rfl : n = 1 := by simpa using hn
    obtain ⟨rfl, rfl⟩ : assemble a 0x1F [b] = x ∧ pieces rest = ps := by
      simpa [pieces, hlead, hb] using h
    refine ⟨rest, ?_, rfl⟩
    rw [utf8EncodeChar_eq_two_iff.mpr ⟨hadmits hlead hb, rfl⟩]
    rfl
  case case7 a n low high hlead b hb hone c rest hc hn =>
    obtain rfl : n = 2 := by simpa using hn
    obtain ⟨rfl, rfl⟩ : assemble a 0x0F [b, c] = x ∧ pieces rest = ps := by
      simpa [pieces, hlead, hb, hc] using h
    refine ⟨rest, ?_, rfl⟩
    rw [utf8EncodeChar_eq_three_iff.mpr ⟨⟨hadmits hlead hb, hc⟩, rfl⟩]
    rfl
  case case9 a n low high hlead b hb hone c hc htwo d rest hd =>
    obtain rfl : n = 3 := by
      have hn := admits_ofByte_iff.mp (hadmits hlead hb)
      simp only [beq_iff_eq] at hone htwo
      omega
    obtain ⟨rfl, rfl⟩ : assemble a 0x07 [b, c, d] = x ∧ pieces rest = ps := by
      simpa [pieces, hlead, hb, hc, hd] using h
    refine ⟨rest, ?_, rfl⟩
    rw [utf8EncodeChar_eq_four_iff.mpr ⟨⟨hadmits hlead hb, hc, hd⟩, rfl⟩]
    rfl
  -- What is left is no byte at all or starts with a broken part.
  all_goals
    rw [pieces] at h
    simp [*] at h

theorem eq_nil_of_pieces_eq_nil {bytes : List UInt8} (h : pieces bytes = []) : bytes = [] := by
  fun_cases pieces bytes
  case case1 => rfl
  all_goals
    rw [pieces] at h
    simp [*] at h

theorem pieces_encode_append (s : List Char) (rest : List UInt8) :
    pieces (encode s ++ rest) = s.map .char ++ pieces rest := by
  induction s with
  | nil => rfl
  | cons x s ih =>
    rw [encode_cons, List.append_assoc, pieces_utf8EncodeChar_append, ih]
    rfl

theorem pieces_encode (s : List Char) : pieces (encode s) = s.map .char := by
  simpa [pieces] using pieces_encode_append s []

/-- No text begins with a byte that begins no character. -/
theorem encode_ne_cons_of_never {s : List Char} {a : UInt8} {rest : List UInt8}
    (ha : Lead.ofByte a = .never) : encode s ≠ a :: rest := by
  intro h
  have hpieces := pieces_encode s
  rw [h, pieces, ha] at hpieces
  cases s with
  | nil => cases hpieces
  | cons x s => cases hpieces

/-- Where nothing is broken, lenient decoding replaces nothing. -/
theorem decodeLenient_encode (s : List Char) : decodeLenient (encode s) = s := by
  rw [decodeLenient, pieces_encode, List.map_map]
  exact List.map_id s

theorem exists_of_pieces_eq_append {bytes : List UInt8} {s : List Char} {ps : List Piece}
    (h : pieces bytes = s.map .char ++ ps) :
    ∃ rest, bytes = encode s ++ rest ∧ ps = pieces rest := by
  induction s generalizing bytes with
  | nil => exact ⟨bytes, rfl, h.symm⟩
  | cons x s ih =>
    obtain ⟨more, rfl, hmore⟩ := exists_of_pieces_eq h
    obtain ⟨rest, rfl, hrest⟩ := ih hmore.symm
    exact ⟨rest, by rw [encode_cons, List.append_assoc], hrest⟩

/-! ## Strict decoding -/

theorem chars_eq_ok_iff {index : Nat} {ps : List Piece} {s : List Char} :
    chars index ps = .ok s ↔ ps = s.map .char := by
  induction ps generalizing index s with
  | nil => cases s <;> simp [chars]
  | cons p ps ih =>
    cases p with
    | broken length cut => cases s <;> simp [chars]
    | char x =>
      rw [chars]
      cases s with
      | nil => cases chars (index + x.utf8Size) ps <;> simp
      | cons y s =>
        rw [List.map_cons, List.cons.injEq, Piece.char.injEq, ← @ih (index + x.utf8Size) s]
        cases chars (index + x.utf8Size) ps <;> simp

theorem exists_of_chars_eq_error {index : Nat} {ps : List Piece} {m : Malformed}
    (h : chars index ps = .error m) :
    ∃ s length cut more, ps = s.map .char ++ .broken length cut :: more ∧
      m.index = index + (encode s).length := by
  induction ps generalizing index with
  | nil => cases h
  | cons p ps ih =>
    cases p with
    | broken length cut =>
      rw [chars] at h
      cases h
      exact ⟨[], length, cut, ps, rfl, rfl⟩
    | char x =>
      rw [chars] at h
      cases hmore : chars (index + x.utf8Size) ps with
      | ok t => simp [hmore] at h
      | error m' => 
        obtain rfl : m' = m := by simpa [hmore] using h
        obtain ⟨s, length, cut, more, rfl, hindex⟩ := ih hmore
        refine ⟨x :: s, length, cut, more, rfl, ?_⟩
        rw [hindex, encode_cons, List.length_append, String.length_utf8EncodeChar, Nat.add_assoc]

/-- **Decoding accepts exactly what writing produces.** -/
theorem decode_eq_ok_iff {bytes : List UInt8} {s : List Char} :
    decode bytes = .ok s ↔ encode s = bytes := by
  rw [decode, chars_eq_ok_iff]
  constructor
  · intro h
    rw [← List.append_nil (s.map Piece.char)] at h
    obtain ⟨rest, rfl, hrest⟩ := exists_of_pieces_eq_append h
    rw [eq_nil_of_pieces_eq_nil hrest.symm, List.append_nil]
  · rintro rfl
    exact pieces_encode s

/-- No text reaches into a broken part. -/
theorem isPrefix_of_map_append {s t : List Char} {length : Nat} {cut : Bool} {more ps : List Piece}
    (h : t.map .char ++ ps = s.map .char ++ .broken length cut :: more) : t <+: s := by
  induction t generalizing s with
  | nil => exact List.nil_prefix
  | cons x t ih =>
    cases s with
    | nil => simp at h
    | cons y s =>
      simp only [List.map_cons, List.cons_append, List.cons.injEq, Piece.char.injEq] at h
      exact List.cons_prefix_cons.mpr ⟨h.1, ih h.2⟩

/-- **Decoding stops where the longest prefix that is text ends.** -/
theorem isGreatest_of_decode_eq_error {bytes : List UInt8} {m : Malformed}
    (h : decode bytes = .error m) :
    IsGreatest {n | n ≤ bytes.length ∧ ∃ s, encode s = bytes.take n} m.index := by
  obtain ⟨s, length, cut, more, hpieces, hindex⟩ := exists_of_chars_eq_error h
  obtain ⟨rest, rfl, hrest⟩ := exists_of_pieces_eq_append hpieces
  rw [Nat.zero_add] at hindex
  rw [hindex]
  refine ⟨⟨by simp, s, by simp⟩, ?_⟩
  rintro n ⟨hn, t, ht⟩
  have hread := pieces_encode_append t ((encode s ++ rest).drop n)
  rw [ht, List.take_append_drop, hpieces] at hread
  obtain ⟨u, rfl⟩ := isPrefix_of_map_append hread.symm
  calc n = (encode t).length := by rw [ht, List.length_take, Nat.min_eq_left hn]
    _ ≤ (encode (t ++ u)).length := by rw [encode, encode, List.flatMap_append]; simp

end Utf8

end PipelineLint.Text
