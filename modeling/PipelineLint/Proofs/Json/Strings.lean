import PipelineLint.Proofs.Json.Grammar
import PipelineLint.Proofs.Text.Utf8

/-!
# Reading white space, words and strings

The readers of the smallest parts of a value take what the grammar says and nothing else. For a
string that is skipped this is all there is to say. A string that is kept has to be a text, and it
is then the one text with the string's code units.

## Why pairs need a lemma

A reader of texts takes both escapes of a surrogate pair in one step, while the grammar takes them
in two. The two meet at the code units: `utf16_eq_cons` says what the first unit of a text tells
about its first character, and it is the only place where surrogates are taken apart.

## Main results

* `Json.blank_skipSpace`, `Json.takeWord_eq_ok_iff` — white space and words
* `Json.codeUnit_eq_ok_iff` — the four digits of an escape
* `Json.utf16_injective`, `Json.utf16_eq_cons` — the code units of texts
* `Json.body_of_skipString`, `Json.Body.skipString` — strings that are skipped
* `Json.body_of_readString`, `Json.Body.readString` — strings that are kept
-/

namespace PipelineLint.Json

/-! ## White space and words -/

theorem isSpace_eq_true_iff {c : Char} : isSpace c = true ↔ c ∈ blanks := by
  simp only [isSpace, blanks, Bool.or_eq_true, beq_iff_eq, List.mem_cons, List.not_mem_nil,
    or_false]
  grind

theorem blank_skipSpace (s : List Char) : Blank s (skipSpace s) := by
  induction s with
  | nil => exact .none
  | cons c s ih =>
    by_cases hc : isSpace c
    · rw [skipSpace, List.dropWhile_cons_of_pos hc]
      exact .more (isSpace_eq_true_iff.mp hc) ih
    · rw [skipSpace, List.dropWhile_cons_of_neg hc]
      exact .none

theorem Blank.skipSpace_eq {s rest : List Char} (h : Blank s rest) :
    skipSpace s = skipSpace rest := by
  induction h with
  | none => rfl
  | more hc _ ih =>
    rw [skipSpace, List.dropWhile_cons_of_pos (isSpace_eq_true_iff.mpr hc)]
    exact ih

theorem Blank.skipSpace_eq_cons {s rest : List Char} {c : Char} (h : Blank s (c :: rest))
    (hc : isSpace c = false) : skipSpace s = c :: rest := by
  rw [h.skipSpace_eq, skipSpace, List.dropWhile_cons_of_neg (by simp [hc])]

theorem blank_of_skipSpace {s rest : List Char} (h : skipSpace s = rest) : Blank s rest :=
  h ▸ blank_skipSpace s

theorem Opens.isSpace_eq_false {c : Char} (h : Opens c) : isSpace c = false := by
  rw [Bool.eq_false_iff, ne_eq, isSpace_eq_true_iff]
  intro hc
  simp only [blanks, List.mem_cons, List.not_mem_nil, or_false] at hc
  rcases hc with rfl | rfl | rfl | rfl <;> exact absurd h (by decide)

theorem Spells.skipSpace_eq {s s₁ rest : List Char} {v : Tree} (h : Spells s₁ v rest)
    (hs : Blank s s₁) : skipSpace s = s₁ := by
  obtain ⟨c, t, rfl, hc⟩ := h.exists_cons
  exact hs.skipSpace_eq_cons hc.isSpace_eq_false

theorem takeWord_eq_ok_iff {word s rest : List Char} :
    takeWord word s = .ok rest ↔ s = word ++ rest := by
  induction word generalizing s with
  | nil => simp [takeWord]
  | cons w word ih =>
    cases s with
    | nil => simp [takeWord]
    | cons c s =>
      by_cases hw : w = c
      · simp [takeWord, hw, ih]
      · simp [takeWord, hw, Ne.symm hw]

/-! ## Escapes -/

theorem escaped?_eq_some_iff {e c : Char} : escaped? e = some c ↔ (e, c) ∈ shortEscapes := by
  constructor
  · intro h
    unfold escaped? at h
    split at h <;> cases h <;> decide
  · intro h
    simp only [shortEscapes, List.mem_cons, List.not_mem_nil, or_false, Prod.mk.injEq] at h
    rcases h with ⟨rfl, rfl⟩ | ⟨rfl, rfl⟩ | ⟨rfl, rfl⟩ | ⟨rfl, rfl⟩ | ⟨rfl, rfl⟩ | ⟨rfl, rfl⟩ |
      ⟨rfl, rfl⟩ | ⟨rfl, rfl⟩ <;> rfl

instance (c : Char) (n : Nat) : Decidable (IsHexDigit c n) := inferInstanceAs (Decidable (_ ∨ _))

theorem hexValue?_eq_some_iff {c : Char} {n : Nat} : hexValue? c = some n ↔ IsHexDigit c n := by
  constructor
  · intro h
    have hle (a b : Char) : a ≤ b ↔ a.toNat ≤ b.toNat := UInt32.le_iff_toNat_le
    simp only [hexValue?, hle, Char.reduceToNat] at h
    have hc : (n < 10 ∧ c.toNat = 48 + n) ∨
        (n < 16 ∧ 10 ≤ n ∧ (c.toNat = 87 + n ∨ c.toNat = 55 + n)) := by grind
    rw [← Char.ofNat_toNat c]
    rcases hc with ⟨hn, hc⟩ | ⟨hn, hten, hc | hc⟩
    · rw [hc]
      exact (by decide : ∀ n < 10, IsHexDigit (Char.ofNat (48 + n)) n) n hn
    · rw [hc]
      exact (by decide : ∀ n < 16, 10 ≤ n → IsHexDigit (Char.ofNat (87 + n)) n) n hn hten
    · rw [hc]
      exact (by decide : ∀ n < 16, 10 ≤ n → IsHexDigit (Char.ofNat (55 + n)) n) n hn hten
  · rintro (h | h)
    · obtain ⟨hn, rfl⟩ := List.getElem?_eq_some_iff.mp h
      exact (by decide : ∀ n : Fin 16, hexValue? "0123456789abcdef".toList[n] = some n.val) ⟨n, hn⟩
    · obtain ⟨hn, rfl⟩ := List.getElem?_eq_some_iff.mp h
      exact (by decide : ∀ n : Fin 16, hexValue? "0123456789ABCDEF".toList[n] = some n.val) ⟨n, hn⟩

theorem codeUnit_eq_ok_iff {a b c d : Char} {s : List Char} {n : Nat} :
    codeUnit (a :: b :: c :: d :: s) = .ok n ↔
      ∃ x y z w, IsHexDigit a x ∧ IsHexDigit b y ∧ IsHexDigit c z ∧ IsHexDigit d w ∧
        n = 4096 * x + 256 * y + 16 * z + w := by
  simp only [← hexValue?_eq_some_iff, codeUnit]
  constructor
  · intro h
    split at h
    · cases h
      exact ⟨_, _, _, _, ‹_›, ‹_›, ‹_›, ‹_›, rfl⟩
    · cases h
  · rintro ⟨x, y, z, w, ha, hb, hc, hd, rfl⟩
    simp only [ha, hb, hc, hd]

/-! ## Code units -/

theorem isLeading_eq_true_iff {n : Nat} : isLeading n = true ↔ 0xD800 ≤ n ∧ n ≤ 0xDBFF := by
  simp only [isLeading, Bool.and_eq_true, decide_eq_true_eq]

theorem isTrailing_eq_true_iff {n : Nat} : isTrailing n = true ↔ 0xDC00 ≤ n ∧ n ≤ 0xDFFF := by
  simp only [isTrailing, Bool.and_eq_true, decide_eq_true_eq]

theorem IsHexDigit.value_lt {c : Char} {n : Nat} (h : IsHexDigit c n) : n < 16 := by
  rcases h with h | h
  · exact (List.getElem?_eq_some_iff.mp h).1
  · exact (List.getElem?_eq_some_iff.mp h).1

/-- The first unit of a text is its first character, or the first half of one. -/
theorem units_eq (c : Char) :
    (units c = [c.toNat] ∧ isLeading c.toNat = false ∧ isTrailing c.toNat = false) ∨
      ∃ n m, units c = [n, m] ∧ isLeading n = true ∧ isTrailing m = true ∧ pairChar n m = c := by
  have hvalid : c.toNat < 0xD800 ∨ 0xDFFF < c.toNat ∧ c.toNat < 0x110000 := c.valid
  simp only [← Bool.not_eq_true, isLeading_eq_true_iff, isTrailing_eq_true_iff]
  by_cases hc : c.toNat < 0x10000
  · left
    rw [units, if_pos hc]
    exact ⟨rfl, by omega, by omega⟩
  · right
    rw [units, if_neg hc]
    obtain ⟨k, hk⟩ : ∃ k, c.toNat = 0x10000 + k := ⟨c.toNat - 0x10000, by omega⟩
    refine ⟨0xD800 + k / 0x400, 0xDC00 + k % 0x400, ?_, ⟨?_, ?_⟩, ⟨?_, ?_⟩, ?_⟩
    · rw [hk, Nat.add_sub_cancel_left]
    · exact Nat.le_add_right _ _
    · omega
    · exact Nat.le_add_right _ _
    · omega
    · rw [pairChar, Nat.add_sub_cancel_left, Nat.add_sub_cancel_left, Nat.add_assoc,
        Nat.div_add_mod, ← hk, Char.ofNat_toNat]

theorem units_ofNat {n : Nat} (hn : n < 0x10000) (hl : isLeading n = false)
    (ht : isTrailing n = false) : units (Char.ofNat n) = [n] := by
  simp only [← Bool.not_eq_true, isLeading_eq_true_iff, isTrailing_eq_true_iff] at hl ht
  have hvalid : n.isValidChar := by
    rw [Nat.isValidChar]
    omega
  rw [units, Text.toNat_ofNat hvalid, if_pos hn]

theorem units_pairChar {n m : Nat} (hl : isLeading n = true) (ht : isTrailing m = true) :
    units (pairChar n m) = [n, m] := by
  rw [isLeading_eq_true_iff] at hl
  rw [isTrailing_eq_true_iff] at ht
  obtain ⟨i, rfl⟩ := Nat.exists_eq_add_of_le hl.1
  obtain ⟨j, rfl⟩ := Nat.exists_eq_add_of_le ht.1
  have hvalid : (0x10000 + 0x400 * i + j).isValidChar := by
    rw [Nat.isValidChar]
    omega
  have hlarge : ¬ 0x10000 + 0x400 * i + j < 0x10000 := by omega
  rw [pairChar, Nat.add_sub_cancel_left, Nat.add_sub_cancel_left, units, Text.toNat_ofNat hvalid,
    if_neg hlarge, Nat.add_assoc, Nat.add_sub_cancel_left]
  have hdiv : (0x400 * i + j) / 0x400 = i := by omega
  have hmod : (0x400 * i + j) % 0x400 = j := by omega
  rw [hdiv, hmod]

theorem utf16_cons (c : Char) (text : List Char) : utf16 (c :: text) = units c ++ utf16 text :=
  List.flatMap_cons

/-- The first unit of a text is its first character, or the first half of its first character. -/
theorem utf16_eq_cons {text : List Char} {n : Nat} {us : List Nat} (h : utf16 text = n :: us) :
    isTrailing n = false ∧
      (isLeading n = false → ∃ t, text = Char.ofNat n :: t ∧ us = utf16 t) ∧
      (isLeading n = true → ∃ m t, isTrailing m = true ∧ text = pairChar n m :: t ∧
        us = m :: utf16 t) := by
  cases text with
  | nil => cases h
  | cons c t =>
    rw [utf16_cons] at h
    rcases units_eq c with ⟨hunits, hl, ht⟩ | ⟨x, y, hunits, hl, ht, hpair⟩
    · rw [hunits] at h
      obtain ⟨rfl, rfl⟩ := List.cons.inj h
      exact ⟨ht, fun _ => ⟨t, by rw [Char.ofNat_toNat], rfl⟩, fun h => by simp [hl] at h⟩
    · rw [hunits] at h
      obtain ⟨rfl, rfl⟩ := List.cons.inj h
      refine ⟨?_, fun h => by simp [hl] at h, fun _ => ⟨y, t, ht, by rw [hpair], rfl⟩⟩
      rw [← Bool.not_eq_true, isTrailing_eq_true_iff]
      rw [isLeading_eq_true_iff] at hl
      omega

theorem units_ne_nil (c : Char) : units c ≠ [] := by
  rcases units_eq c with ⟨h, -⟩ | ⟨n, m, h, -⟩
  · simp [h]
  · simp [h]

/-- What the units of a text start with tells its first character. -/
theorem eq_cons_of_utf16 {text : List Char} {c : Char} {us : List Nat}
    (h : utf16 text = units c ++ us) : ∃ t, text = c :: t ∧ us = utf16 t := by
  rcases units_eq c with ⟨hunits, hl, ht⟩ | ⟨n, m, hunits, hl, ht, hpair⟩
  · rw [hunits, List.singleton_append] at h
    rw [← Char.ofNat_toNat c]
    exact (utf16_eq_cons h).2.1 hl
  · rw [hunits] at h
    obtain ⟨m', t, ht, htext, hus⟩ := (utf16_eq_cons h).2.2 hl
    obtain ⟨rfl, rfl⟩ := List.cons.inj hus
    exact ⟨t, hpair ▸ htext, rfl⟩

theorem utf16_injective {s t : List Char} (h : utf16 s = utf16 t) : s = t := by
  induction s generalizing t with
  | nil =>
    cases t with
    | nil => rfl
    | cons c t => exact absurd (List.append_eq_nil_iff.mp h.symm).1 (units_ne_nil c)
  | cons c s ih =>
    obtain ⟨t, rfl, htail⟩ := eq_cons_of_utf16 (h.symm.trans (utf16_cons c s))
    rw [ih htail]

theorem exists_cons_of_codeUnit {t : List Char} {n : Nat} (h : codeUnit t = .ok n) :
    ∃ a b c d s, t = a :: b :: c :: d :: s := by
  unfold codeUnit at h
  split at h
  · exact ⟨_, _, _, _, _, rfl⟩
  · split at h <;> cases h

theorem lt_of_codeUnit {t : List Char} {n : Nat} (h : codeUnit t = .ok n) : n < 0x10000 := by
  obtain ⟨a, b, c, d, s, rfl⟩ := exists_cons_of_codeUnit h
  obtain ⟨x, y, z, w, ha, hb, hc, hd, rfl⟩ := codeUnit_eq_ok_iff.mp h
  have := ha.value_lt
  have := hb.value_lt
  have := hc.value_lt
  have := hd.value_lt
  omega

/-! ## Strings that are skipped -/

theorem body_of_skipString {s rest : List Char} (h : skipString s = .ok rest) :
    ∃ us, Body s us rest := by
  fun_induction skipString s with
  | case1 => cases h
  | case2 s => cases h; exact ⟨_, .close⟩
  | case3 => cases h
  | case4 t f hunit => simp [hunit] at h
  | case5 n a b c d t hunit ih =>
    simp only [hunit] at h
    obtain ⟨us, hbody⟩ := ih h
    obtain ⟨x, y, z, w, ha, hb, hc, hd, -⟩ := codeUnit_eq_ok_iff.mp hunit
    exact ⟨_, .unit ha hb hc hd hbody⟩
  | case6 t n hunit hshort =>
    obtain ⟨a, b, c, d, t, rfl⟩ := exists_cons_of_codeUnit hunit
    exact absurd rfl (hshort a b c d t)
  | case7 e t hu c he ih =>
    obtain ⟨us, hbody⟩ := ih h
    exact ⟨_, .short (escaped?_eq_some_iff.mp he) hbody⟩
  | case8 => cases h
  | case9 => cases h
  | case10 c t hquote hescape hcontrol ih =>
    obtain ⟨us, hbody⟩ := ih h
    exact ⟨_, .plain hquote hescape (Char.not_lt.mp hcontrol) hbody⟩

theorem Body.skipString {s rest : List Char} {us : List Nat} (h : Body s us rest) :
    skipString s = .ok rest := by
  induction h with
  | close => simp [Json.skipString]
  | plain hquote hescape hcontrol _ ih =>
    simp [Json.skipString, Char.not_lt.mpr hcontrol, ih]
  | @short e c s us rest he _ ih =>
    have hu : e ≠ 'u' := by
      rintro rfl
      revert he
      simp [shortEscapes]
    simp [Json.skipString, escaped?_eq_some_iff.mpr he, ih]
  | unit ha hb hc hd _ ih =>
    rw [Json.skipString.eq_def]
    simp only [codeUnit_eq_ok_iff.mpr ⟨_, _, _, _, ha, hb, hc, hd, rfl⟩, ih]

/-! ## Strings that are kept -/

theorem consChar_eq_ok_iff {c : Char} {r : Except Failure (List Char × List Char)}
    {text rest : List Char} :
    consChar c r = .ok (text, rest) ↔ ∃ t, r = .ok (t, rest) ∧ text = c :: t := by
  obtain f | ⟨t, u⟩ := r
  · simp [consChar]
  · simp only [consChar, Except.ok.injEq, Prod.mk.injEq]
    grind

theorem body_of_codeUnit {a b c d : Char} {s rest : List Char} {n : Nat} {us : List Nat}
    (hunit : codeUnit (a :: b :: c :: d :: s) = .ok n) (h : Body s us rest) :
    Body ('\\' :: 'u' :: a :: b :: c :: d :: s) (n :: us) rest := by
  obtain ⟨x, y, z, w, ha, hb, hc, hd, rfl⟩ := codeUnit_eq_ok_iff.mp hunit
  exact .unit ha hb hc hd h

theorem body_of_readString {s text rest : List Char} (h : readString s = .ok (text, rest)) :
    Body s (utf16 text) rest := by
  fun_induction readString s generalizing text with
  | case1 => cases h
  | case2 => cases h; exact .close
  | case3 => cases h
  | case4 t f hunit => simp [hunit] at h
  | case5 n a b c d t ht hunit => simp [hunit, ht] at h
  | case6 n a b c d t ht hl hunit ih =>
    simp only [hunit, ht, hl, if_true] at h
    obtain ⟨text, hread, rfl⟩ := consChar_eq_ok_iff.mp h
    rw [utf16_cons, units_ofNat (lt_of_codeUnit hunit) (by simpa using hl) (by simpa using ht)]
    exact body_of_codeUnit hunit (ih hread)
  | case7 n a b c d ht hl hunit => simp [hunit, ht, hl] at h
  | case8 n a b c d ht hl hunit => simp [hunit, ht, hl] at h
  | case9 n a b c d ht hl s f hunit' hunit => simp [hunit, hunit', ht, hl] at h
  | case10 n a b c d ht hl m a' b' c' d' t ht' hunit' hunit ih =>
    simp only [hunit, hunit', ht, hl, ht', if_true] at h
    obtain ⟨text, hread, rfl⟩ := consChar_eq_ok_iff.mp h
    rw [utf16_cons, units_pairChar (by simpa using hl) ht']
    exact body_of_codeUnit hunit (body_of_codeUnit hunit' (ih hread))
  | case11 n a b c d ht hl m a' b' c' d' t ht' hunit' hunit =>
    simp [hunit, hunit', ht, hl, ht'] at h
  | case12 n a b c d ht hl t m hunit' hshort hunit =>
    obtain ⟨a, b, c, d, t, rfl⟩ := exists_cons_of_codeUnit hunit'
    exact absurd rfl (hshort a b c d t)
  | case13 n a b c d ht hl e t hu hunit => simp [hunit, ht, hl] at h
  | case14 n a b c d ht hl e t hu hunit => simp [hunit, ht, hl] at h
  | case15 t n hunit hshort =>
    obtain ⟨a, b, c, d, t, rfl⟩ := exists_cons_of_codeUnit hunit
    exact absurd rfl (hshort a b c d t)
  | case16 e t hu c he ih =>
    obtain ⟨t, hread, rfl⟩ := consChar_eq_ok_iff.mp h
    rw [utf16_cons]
    exact .short (escaped?_eq_some_iff.mp he) (ih hread)
  | case17 => cases h
  | case18 => cases h
  | case19 c t hquote hescape hcontrol ih =>
    obtain ⟨t, hread, rfl⟩ := consChar_eq_ok_iff.mp h
    rw [utf16_cons]
    exact .plain hquote hescape (Char.not_lt.mp hcontrol) (ih hread)

/-- The first unit of a body that follows an escaped leading half is escaped, too, when it is a
trailing half: characters that stand for themselves never start with one. -/
theorem Body.exists_codeUnit {s rest : List Char} {m : Nat} {us : List Nat}
    (h : Body s (m :: us) rest) (hm : isTrailing m = true) :
    ∃ a b c d t, s = '\\' :: 'u' :: a :: b :: c :: d :: t ∧
      codeUnit (a :: b :: c :: d :: t) = .ok m ∧ Body t us rest := by
  have hunits (c : Char) {us vs : List Nat} (heq : units c ++ us = m :: vs) : False := by
    rcases units_eq c with ⟨hc, -, ht⟩ | ⟨x, y, hc, hl, -, -⟩
    · rw [hc] at heq
      rw [(List.cons.inj heq).1, hm] at ht
      cases ht
    · rw [hc] at heq
      rw [(List.cons.inj heq).1, isLeading_eq_true_iff] at hl
      rw [isTrailing_eq_true_iff] at hm
      omega
  generalize hall : m :: us = all at h
  cases h with
  | close => cases hall
  | plain => exact (hunits _ hall.symm).elim
  | short => exact (hunits _ hall.symm).elim
  | unit ha hb hc hd h =>
    obtain ⟨rfl, rfl⟩ := List.cons.inj hall
    exact ⟨_, _, _, _, _, rfl, codeUnit_eq_ok_iff.mpr ⟨_, _, _, _, ha, hb, hc, hd, rfl⟩, h⟩

theorem Body.readString {s rest text : List Char} (h : Body s (utf16 text) rest) :
    readString s = .ok (text, rest) := by
  -- Two escapes may make one character, so the induction is on the length of the body.
  induction hn : s.length using Nat.strongRecOn generalizing s text with
  | _ n ih =>
  subst hn
  generalize hus : utf16 text = us at h
  cases h with
  | close =>
    obtain rfl : text = [] := utf16_injective (t := []) hus
    simp [Json.readString]
  | @plain c s us _ hquote hescape hcontrol h =>
    obtain ⟨t, rfl, rfl⟩ := eq_cons_of_utf16 hus
    have hread := ih s.length (by simp only [List.length_cons]; omega) h rfl
    simp [Json.readString, Char.not_lt.mpr hcontrol, hread, consChar]
  | @short e c s us _ he h =>
    obtain ⟨t, rfl, rfl⟩ := eq_cons_of_utf16 hus
    have hu : e ≠ 'u' := by
      rintro rfl
      revert he
      simp [shortEscapes]
    have hread := ih s.length (by simp only [List.length_cons]; omega) h rfl
    simp [Json.readString, escaped?_eq_some_iff.mpr he, hread, consChar]
  | @unit a b c d x y z w s us _ ha hb hc hd h =>
    have hunit : codeUnit (a :: b :: c :: d :: s) = .ok (4096 * x + 256 * y + 16 * z + w) :=
      codeUnit_eq_ok_iff.mpr ⟨x, y, z, w, ha, hb, hc, hd, rfl⟩
    generalize 4096 * x + 256 * y + 16 * z + w = n at hus hunit
    obtain ⟨ht, hwhole, hpair⟩ := utf16_eq_cons hus
    cases hl : isLeading n with
    | false =>
      obtain ⟨t, rfl, rfl⟩ := hwhole hl
      have hread := ih s.length (by simp only [List.length_cons]; omega) h rfl
      rw [Json.readString.eq_def]
      simp [hunit, ht, hl, hread, consChar]
    | true =>
      obtain ⟨m, t, hm, rfl, rfl⟩ := hpair hl
      obtain ⟨a', b', c', d', s', rfl, hunit', h⟩ := h.exists_codeUnit hm
      have hread := ih s'.length (by simp only [List.length_cons]; omega) h rfl
      rw [Json.readString.eq_def]
      simp [hunit, hunit', ht, hl, hm, hread, consChar]

end PipelineLint.Json
