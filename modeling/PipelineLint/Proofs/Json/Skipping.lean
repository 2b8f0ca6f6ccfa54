import PipelineLint.Json.Skip
import PipelineLint.Proofs.Json.Strings

/-!
# Skipping is recognizing

Skipping a value takes exactly what the grammar calls a value, to any depth: what is skipped is
spelled correctly, and whatever is spelled correctly is skipped. The bound on the depth that the
skipper carries is never what stops it, because no text holds a value nested deeper than the text is
long.

## Main results

* `Json.exists_isUnsigned_of_skipNumber`, `Json.IsUnsigned.skipNumber` — numbers
* `Json.exists_spells_of_skipValue`, `Json.Spells.skipValue` — values of any kind
-/

namespace PipelineLint.Json

/-! ## Numbers -/

theorem Closed.startsWithDigit {s : List Char} (h : Closed s) : startsWithDigit s = false := by
  cases s with
  | nil => rfl
  | cons c t => exact h.1

theorem IsDigits.startsWithDigit {ds : List Char} (h : IsDigits ds) (rest : List Char) :
    startsWithDigit (ds ++ rest) = true := by
  obtain ⟨hne, hdigits⟩ := h
  obtain ⟨d, ds, rfl⟩ := List.exists_cons_of_ne_nil hne
  exact hdigits d List.mem_cons_self

/-- The digits at the start of a text. -/
theorem exists_digits (s : List Char) :
    ∃ ds, (∀ c ∈ ds, c.isDigit = true) ∧ s = ds ++ s.dropWhile Char.isDigit ∧
      (startsWithDigit s = true ↔ ds ≠ []) := by
  refine ⟨s.takeWhile Char.isDigit, fun c hc => List.all_eq_true.mp List.all_takeWhile c hc,
    List.takeWhile_append_dropWhile.symm, ?_⟩
  cases s with
  | nil => simp [startsWithDigit]
  | cons c t =>
    by_cases hc : c.isDigit
    · simp [startsWithDigit, hc]
    · simp [startsWithDigit, hc]

theorem dropWhile_digits {ds rest : List Char} (hds : ∀ c ∈ ds, c.isDigit = true)
    (hrest : startsWithDigit rest = false) : (ds ++ rest).dropWhile Char.isDigit = rest := by
  rw [List.dropWhile_append_of_pos hds]
  cases rest with
  | nil => rfl
  | cons c t => exact List.dropWhile_cons_of_neg (by simpa [startsWithDigit] using hrest)

theorem takeSign_eq (s : List Char) :
    ∃ sign ∈ [[], ['+'], ['-']], s = sign ++ (takeSign s).2 := by
  unfold takeSign
  split
  · exact ⟨['+'], by simp, rfl⟩
  · exact ⟨['-'], by simp, rfl⟩
  · exact ⟨[], by simp, rfl⟩

theorem takeSign_append {sign ds rest : List Char} (hsign : sign ∈ [[], ['+'], ['-']])
    (hds : IsDigits ds) : (takeSign (sign ++ (ds ++ rest))).2 = ds ++ rest := by
  obtain ⟨hne, hdigits⟩ := hds
  obtain ⟨d, ds, rfl⟩ := List.exists_cons_of_ne_nil hne
  have hd := hdigits d List.mem_cons_self
  simp only [List.mem_cons, List.not_mem_nil, or_false] at hsign
  rcases hsign with rfl | rfl | rfl
  · have hplus : d ≠ '+' := by rintro rfl; exact absurd hd (by decide)
    have hminus : d ≠ '-' := by rintro rfl; exact absurd hd (by decide)
    rw [List.nil_append, List.cons_append]
    unfold takeSign
    split
    · exact absurd (List.cons.inj ‹_›).1 hplus
    · exact absurd (List.cons.inj ‹_›).1 hminus
    · rfl
  · rfl
  · rfl

theorem exists_isExponent_of_skipAfterFraction {s rest : List Char}
    (h : skipAfterFraction s = .ok rest) : ∃ w, IsExponent w ∧ s = w ++ rest := by
  have hexponent {e : Char} (he : e ∈ ['e', 'E']) {t : List Char} (h : skipExponent t = .ok rest) :
      ∃ w, IsExponent w ∧ e :: t = w ++ rest := by
    obtain ⟨sign, hsign, hs⟩ := takeSign_eq t
    obtain ⟨ds, hds, htake, hne⟩ := exists_digits (takeSign t).2
    rw [skipExponent] at h
    dsimp only at h
    split at h
    · next hdigit =>
      cases h
      refine ⟨e :: (sign ++ ds), .inr ⟨e, sign, ds, he, hsign, ⟨hne.mp hdigit, hds⟩, rfl⟩, ?_⟩
      rw [List.cons_append, List.append_assoc, ← htake, ← hs]
    · cases h
  unfold skipAfterFraction at h
  split at h
  · exact hexponent (by simp) h
  · exact hexponent (by simp) h
  · cases h
    exact ⟨[], .inl rfl, rfl⟩

theorem IsExponent.skipAfterFraction {w rest : List Char} (h : IsExponent w) (hrest : Closed rest) :
    skipAfterFraction (w ++ rest) = .ok rest := by
  rcases h with rfl | ⟨e, sign, ds, he, hsign, hds, rfl⟩
  · cases rest with
    | nil => rfl
    | cons c t =>
      obtain ⟨-, hc⟩ := hrest
      simp only [List.mem_cons, List.not_mem_nil, or_false, not_or] at hc
      simp [Json.skipAfterFraction, hc]
  · have hexponent : skipExponent (sign ++ (ds ++ rest)) = .ok rest := by
      have hdigit := hds.startsWithDigit rest
      simp only [skipExponent, takeSign_append hsign hds, hdigit, if_true,
        dropWhile_digits hds.2 hrest.startsWithDigit]
    simp only [List.mem_cons, List.not_mem_nil, or_false] at he
    rw [List.cons_append, List.append_assoc]
    rcases he with rfl | rfl
    · exact hexponent
    · exact hexponent

theorem exists_isUnsigned_of_skipNumber {s rest : List Char} (h : skipNumber s = .ok rest) :
    ∃ w, IsUnsigned w ∧ s = w ++ rest := by
  cases s with
  | nil => cases h
  | cons c s =>
    obtain ⟨ds, hds, hs, hne⟩ := exists_digits s
    unfold skipNumber at h
    dsimp only at h
    split at h
    · cases h
    · next hc =>
      split at h
      · cases h
      · next hzero =>
        have hc : c.isDigit = true := by simpa using hc
        have hwhole : IsWhole (c :: ds) := by
          refine ⟨⟨List.cons_ne_nil _ _, List.forall_mem_cons.mpr ⟨hc, hds⟩⟩, fun hhead => ?_⟩
          obtain rfl : c = '0' := by simpa using hhead
          have hnone : ¬ startsWithDigit s = true := by simpa using hzero
          rw [Decidable.not_not.mp (mt hne.mpr hnone)]
        suffices ∃ w, IsFraction w ∧ ∃ e, IsExponent e ∧
            s.dropWhile Char.isDigit = w ++ (e ++ rest) by
          obtain ⟨w, hw, e, he, htext⟩ := this
          refine ⟨c :: ds ++ (w ++ e), ⟨_, w, e, hwhole, hw, he, rfl⟩, ?_⟩
          rw [List.append_assoc, List.append_assoc, ← htext, List.cons_append, ← hs]
        split at h
        · next t htext =>
          split at h
          · next hdigit =>
            obtain ⟨fs, hfs, ht, hne'⟩ := exists_digits t
            obtain ⟨e, he, hexponent⟩ := exists_isExponent_of_skipAfterFraction h
            refine ⟨'.' :: fs, .inr ⟨fs, ⟨hne'.mp hdigit, hfs⟩, rfl⟩, e, he, ?_⟩
            rw [htext, List.cons_append, ← hexponent, ← ht]
          · cases h
        · obtain ⟨e, he, hexponent⟩ := exists_isExponent_of_skipAfterFraction h
          exact ⟨[], .inl rfl, e, he, hexponent⟩

theorem IsUnsigned.skipNumber {w rest : List Char} (h : IsUnsigned w) (hrest : Closed rest) :
    skipNumber (w ++ rest) = .ok rest := by
  obtain ⟨whole, fraction, exponent, ⟨⟨hne, hdigits⟩, hzero⟩, hfraction, hexponent, rfl⟩ := h
  obtain ⟨c, ds, rfl⟩ := List.exists_cons_of_ne_nil hne
  obtain ⟨hc, hds⟩ := List.forall_mem_cons.mp hdigits
  have hstart : startsWithDigit (exponent ++ rest) = false := by
    rcases hexponent with rfl | ⟨e, sign, es, he, -, -, rfl⟩
    · exact hrest.startsWithDigit
    · simp only [List.mem_cons, List.not_mem_nil, or_false] at he
      rcases he with rfl | rfl <;> rfl
  have hstart' : startsWithDigit (fraction ++ (exponent ++ rest)) = false := by
    rcases hfraction with rfl | ⟨fs, -, rfl⟩
    · exact hstart
    · rfl
  have hfirst : ¬ (c = '0' && startsWithDigit (ds ++ (fraction ++ (exponent ++ rest)))) = true := by
    simp only [Bool.and_eq_true, decide_eq_true_eq, not_and]
    rintro rfl
    obtain rfl : ds = [] := by simpa using hzero rfl
    simp [hstart']
  rw [List.append_assoc, List.append_assoc, List.cons_append]
  unfold Json.skipNumber
  dsimp only
  rw [if_neg (by simp [hc]), if_neg hfirst, dropWhile_digits hds hstart']
  rcases hfraction with rfl | ⟨fs, hfs, rfl⟩
  · have hpoint : ∀ t, exponent ++ rest ≠ '.' :: t := by
      rcases hexponent with rfl | ⟨e, sign, es, he, -, -, rfl⟩
      · rintro t rfl
        exact absurd hrest.2 (by simp)
      · rintro t ht
        obtain rfl := (List.cons.inj ht).1
        simp at he
    rw [List.nil_append]
    split
    · exact absurd ‹_› (hpoint _)
    · exact hexponent.skipAfterFraction hrest
  · have hdigit := hfs.startsWithDigit (exponent ++ rest)
    simp only [List.cons_append, hdigit, if_true, dropWhile_digits hfs.2 hstart]
    exact hexponent.skipAfterFraction hrest

/-! ## Lists and objects -/

/-- A value is skipped by `value` exactly when it is a `P`; texts are considered that are shorter
than `n`. -/
structure Skips {α : Type} (value : List Char → Except Failure (List Char))
    (P : List Char → α → List Char → Prop) (n : Nat) : Prop where
  sound {s rest} : value s = .ok rest → ∃ s₁ v, Blank s s₁ ∧ P s₁ v rest
  complete {s s₁ v rest} : s.length < n → Blank s s₁ → P s₁ v rest → Closed rest →
    value s = .ok rest

/-- `loop` skips items with commas before them, and the closing character. -/
structure Loops (close : Char) (item : List Char → Except Failure (List Char))
    (loop : Nat → List Char → Except Failure (List Char)) : Prop where
  closed (t) : Closed (close :: t)
  space : isSpace close = false
  zero (s rest) : loop 0 s ≠ .ok rest
  succ (fuel s rest) : loop (fuel + 1) s = .ok rest ↔ skipSpace s = close :: rest ∨
    ∃ t u, skipSpace s = ',' :: t ∧ item t = .ok u ∧ loop fuel u = .ok rest

section

variable {α : Type} {P : List Char → α → List Char → Prop} {n : Nat} {close : Char}
  {item : List Char → Except Failure (List Char)}
  {loop : Nat → List Char → Except Failure (List Char)}

theorem Loops.exists_more (h : Loops close item loop) (hitem : Skips item P n) {fuel : Nat}
    {s rest : List Char} (hs : loop fuel s = .ok rest) : ∃ vs, More close P s vs rest := by
  induction fuel generalizing s with
  | zero => exact absurd hs (h.zero s rest)
  | succ fuel ih =>
    rcases (h.succ fuel s rest).mp hs with hclose | ⟨t, u, hcomma, ht, hu⟩
    · exact ⟨[], .close (blank_of_skipSpace hclose)⟩
    · obtain ⟨t₁, v, hblank, hv⟩ := hitem.sound ht
      obtain ⟨vs, hmore⟩ := ih hu
      exact ⟨v :: vs, .item (blank_of_skipSpace hcomma) hblank hv hmore⟩

theorem Loops.of_more (h : Loops close item loop) (hitem : Skips item P n)
    (hP : ∀ s v rest, P s v rest → rest.length < s.length) {fuel : Nat} {s rest : List Char}
    {vs : List α} (hs : More close P s vs rest) (hn : s.length < n) (hfuel : s.length < fuel) :
    loop fuel s = .ok rest := by
  induction hs generalizing fuel with
  | close hs =>
    obtain ⟨fuel, rfl⟩ := Nat.exists_eq_succ_of_ne_zero (Nat.ne_zero_of_lt hfuel)
    exact (h.succ _ _ _).mpr (.inl (hs.skipSpace_eq_cons h.space))
  | item hs hs₁ hv hmore ih =>
    obtain ⟨fuel, rfl⟩ := Nat.exists_eq_succ_of_ne_zero (Nat.ne_zero_of_lt hfuel)
    have hcomma := hs.length_le
    have hblank := hs₁.length_le
    have hlength := hP _ _ _ hv
    rw [List.length_cons] at hcomma
    have hvalue := hitem.complete (by omega) hs₁ hv (hmore.closed h.closed)
    have hrest := ih (by omega) (Nat.lt_of_lt_of_le (by omega) (Nat.le_of_lt_succ hfuel))
    exact (h.succ _ _ _).mpr (.inr ⟨_, _, hs.skipSpace_eq_cons (by decide), hvalue, hrest⟩)

end

theorem loops_skipElements (value : List Char → Except Failure (List Char)) :
    Loops ']' value (skipElements value) where
  closed := closed_bracket
  space := by decide
  zero _ _ := by simp [skipElements]
  succ fuel s rest := by
    rw [skipElements]
    generalize skipSpace s = u
    split
    · simp
    · simp
    · next t =>
      cases hvalue : value t with
      | error f => simp [hvalue]
      | ok u => simp [hvalue]
    · next hnil hclose hcomma =>
      simp only [reduceCtorEq, false_iff, not_or, not_exists, not_and]
      exact ⟨hclose rest, fun t u ht => absurd ht (hcomma t)⟩

/-- Skips a member with its name. -/
def skipNamed (value : List Char → Except Failure (List Char)) (s : List Char) :
    Except Failure (List Char) :=
  match skipName s with
  | .error f => .error f
  | .ok s => value s

theorem loops_skipMembers (value : List Char → Except Failure (List Char)) :
    Loops '\x7d' (skipNamed value) (skipMembers value) where
  closed := closed_brace
  space := by decide
  zero _ _ := by simp [skipMembers]
  succ fuel s rest := by
    rw [skipMembers]
    unfold skipNamed
    generalize skipSpace s = u
    split
    · simp
    · simp
    · next t =>
      cases hname : skipName t with
      | error f => simp [hname]
      | ok u =>
        cases hvalue : value u with
        | error f => simp [hname, hvalue]
        | ok u => simp [hname, hvalue]
    · next hnil hclose hcomma =>
      simp only [reduceCtorEq, false_iff, not_or, not_exists, not_and]
      exact ⟨hclose rest, fun t u ht => absurd ht (hcomma t)⟩

theorem skipNamed_eq_ok_iff {value : List Char → Except Failure (List Char)} {s rest : List Char} :
    skipNamed value s = .ok rest ↔ ∃ u, skipName s = .ok u ∧ value u = .ok rest := by
  rw [skipNamed]
  cases skipName s with
  | error f => simp
  | ok u => simp

theorem skipName_eq_ok_iff {s rest : List Char} :
    skipName s = .ok rest ↔
      ∃ t us u, Blank s ('"' :: t) ∧ Body t us u ∧ Blank u (':' :: rest) := by
  rw [skipName]
  constructor
  · intro h
    split at h
    · cases h
    · next t hquote =>
      split at h
      · cases h
      · next u hname =>
        obtain ⟨us, hbody⟩ := body_of_skipString hname
        split at h
        · cases h
        · next r hcolon =>
          cases h
          exact ⟨t, us, u, blank_of_skipSpace hquote, hbody, blank_of_skipSpace hcolon⟩
        · cases h
    · cases h
  · rintro ⟨t, us, u, hquote, hbody, hcolon⟩
    simp only [hquote.skipSpace_eq_cons (by decide), hbody.skipString,
      hcolon.skipSpace_eq_cons (by decide)]

theorem Skips.named {α : Type} {value : List Char → Except Failure (List Char)}
    {P : List Char → α → List Char → Prop} {n : Nat} (h : Skips value P n) :
    Skips (skipNamed value) (Member P) n where
  sound {s rest} hs := by
    obtain ⟨u, hname, hvalue⟩ := skipNamed_eq_ok_iff.mp hs
    obtain ⟨t, us, r, hquote, hbody, hcolon⟩ := skipName_eq_ok_iff.mp hname
    obtain ⟨u₁, v, hblank, hv⟩ := h.sound hvalue
    exact ⟨_, _, hquote, .mk hbody hcolon hblank hv⟩
  complete {s s₁ m rest} hn hblank hm hclosed := by
    obtain ⟨hbody, hcolon, hblank', hv⟩ := hm
    have hshorter := hblank.length_le
    have hbody' := hbody.length_lt
    have hcolon' := hcolon.length_le
    simp only [List.length_cons] at hshorter hcolon'
    refine skipNamed_eq_ok_iff.mpr ⟨_, skipName_eq_ok_iff.mpr ⟨_, _, _, hblank, hbody, hcolon⟩, ?_⟩
    exact h.complete (by omega) hblank' hv hclosed

/-! ## Values of any kind -/

theorem exists_spells_of_skipNested {n : Nat} (ih : Skips (skipNested n) Spells n)
    {s rest : List Char} (h : skipNested (n + 1) s = .ok rest) :
    ∃ s₁ v, Blank s s₁ ∧ Spells s₁ v rest := by
  refine ⟨skipSpace s, ?_⟩
  rw [skipNested] at h
  suffices ∃ v, Spells (skipSpace s) v rest from
    this.elim fun v hv => ⟨v, blank_skipSpace s, hv⟩
  generalize skipSpace s = u at h ⊢
  split at h
  · cases h
  · next t =>
    obtain rfl := takeWord_eq_ok_iff.mp h
    exact ⟨_, .null⟩
  · next t =>
    obtain rfl := takeWord_eq_ok_iff.mp h
    exact ⟨_, .true⟩
  · next t =>
    obtain rfl := takeWord_eq_ok_iff.mp h
    exact ⟨_, .false⟩
  · obtain ⟨us, hbody⟩ := body_of_skipString h
    exact ⟨_, .string hbody⟩
  · obtain ⟨w, hw, rfl⟩ := exists_isUnsigned_of_skipNumber h
    exact ⟨_, .number (.inr ⟨w, hw, rfl⟩)⟩
  · next t =>
    split at h
    · cases h
    · next hclose =>
      cases h
      exact ⟨_, .list (blank_of_skipSpace hclose) .close⟩
    · split at h
      · next hvalue =>
        obtain ⟨t₁, v, hblank, hv⟩ := ih.sound hvalue
        obtain ⟨vs, hmore⟩ := (loops_skipElements _).exists_more ih h
        exact ⟨_, .list ((blank_skipSpace t).trans hblank) (.item hv hmore)⟩
      · cases h
  · next t =>
    split at h
    · cases h
    · next hclose =>
      cases h
      exact ⟨_, .object (blank_of_skipSpace hclose) .close⟩
    · split at h
      · cases h
      · next u hname =>
        split at h
        · next r hvalue =>
          obtain ⟨t₁, m, hblank, hm⟩ := ih.named.sound (skipNamed_eq_ok_iff.mpr ⟨u, hname, hvalue⟩)
          obtain ⟨ms, hmore⟩ := (loops_skipMembers _).exists_more ih.named h
          exact ⟨_, .object ((blank_skipSpace t).trans hblank) (.item hm hmore)⟩
        · cases h
  · split at h
    · obtain ⟨w, hw, hs⟩ := exists_isUnsigned_of_skipNumber h
      rw [hs]
      exact ⟨_, .number (.inl hw)⟩
    · cases h

theorem skipNested_of_spells {n : Nat} (ih : Skips (skipNested n) Spells n) {s s₁ rest : List Char}
    {v : Tree} (hn : s.length < n + 1) (hblank : Blank s s₁) (hv : Spells s₁ v rest)
    (hclosed : Closed rest) : skipNested (n + 1) s = .ok rest := by
  have hshorter := hblank.length_le
  rw [skipNested, hv.skipSpace_eq hblank]
  cases hv with
  | null => exact takeWord_eq_ok_iff.mpr rfl
  | true => exact takeWord_eq_ok_iff.mpr rfl
  | false => exact takeWord_eq_ok_iff.mpr rfl
  | string h => exact h.skipString
  | number hw =>
    rcases hw with hw | ⟨u, hw, rfl⟩
    · have hnumber := hw.skipNumber hclosed
      obtain ⟨c, t, rfl, hc⟩ := hw.exists_cons
      rw [List.cons_append] at hnumber ⊢
      have hother : c ∉ ['n', 't', 'f', '"', '-', '[', '\x7b'] := by
        intro hmem
        simp only [List.mem_cons, List.not_mem_nil, or_false] at hmem
        rcases hmem with rfl | rfl | rfl | rfl | rfl | rfl | rfl <;> exact absurd hc (by decide)
      simp only [List.mem_cons, List.not_mem_nil, or_false, not_or] at hother
      simp [hother, hc, hnumber]
    · exact hw.skipNumber hclosed
  | list hs h =>
    cases h with
    | close => simp only [hs.skipSpace_eq_cons (by decide)]
    | item hv h =>
      have hblank' := hs.length_le
      have hlength := hv.length_lt
      rw [List.length_cons] at hshorter
      have hvalue := ih.complete (by omega) .none hv (h.closed closed_bracket)
      have hspace := hv.skipSpace_eq hs
      obtain ⟨c, t, rfl, hc⟩ := hv.exists_cons
      have hclose : c ≠ ']' := by
        rintro rfl
        exact absurd hc (by decide)
      simp only [hspace]
      split
      · cases ‹_ = _›
      · exact absurd (List.cons.inj ‹_›).1 hclose
      · rw [hvalue]
        exact (loops_skipElements _).of_more ih (fun _ _ _ h => h.length_lt) h (by omega) (by omega)
  | object hs h =>
    cases h with
    | close => simp only [hs.skipSpace_eq_cons (by decide)]
    | item hm h =>
      have hblank' := hs.length_le
      have hlength := hm.spells_length_lt
      rw [List.length_cons] at hshorter
      have hnamed := ih.named.complete (by omega) .none hm (h.closed closed_brace)
      obtain ⟨u, hname, hvalue⟩ := skipNamed_eq_ok_iff.mp hnamed
      obtain ⟨hbody, hcolon, hblank, hv⟩ := hm
      simp only [hs.skipSpace_eq_cons (by decide)]
      split
      · cases ‹_ = _›
      · exact absurd (List.cons.inj ‹_›).1 (by decide)
      · simp only [hname, hvalue]
        exact (loops_skipMembers _).of_more ih.named (fun _ _ _ h => h.spells_length_lt) h
          (by omega) (by omega)

theorem skips_skipNested (n : Nat) : Skips (skipNested n) Spells n := by
  induction n with
  | zero => exact ⟨fun h => (by cases h), fun hn => absurd hn (Nat.not_lt_zero _)⟩
  | succ n ih => exact ⟨exists_spells_of_skipNested ih, skipNested_of_spells ih⟩

/-- **What is skipped is a value.** -/
theorem exists_spells_of_skipValue {s rest : List Char} (h : skipValue s = .ok rest) :
    ∃ s₁ v, Blank s s₁ ∧ Spells s₁ v rest :=
  (skips_skipNested _).sound h

/-- **Every value is skipped**, whatever its kind and its depth. -/
theorem Spells.skipValue {s s₁ rest : List Char} {v : Tree} (hv : Spells s₁ v rest)
    (hblank : Blank s s₁) (hclosed : Closed rest) : skipValue s = .ok rest :=
  (skips_skipNested _).complete (Nat.lt_succ_self _) hblank hv hclosed

end PipelineLint.Json
