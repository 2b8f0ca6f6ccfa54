import PipelineLint.Proofs.Ini.Reading

/-!
# Profile documents as they are written

A document is written line by line: a header for each section, a line for each entry below it, and
blank lines and comments wherever one likes. Between a key, its separator and its value there may be
spaces. Lines end with a newline, with a carriage return and a newline, or with the document.

## What cannot be written

Nothing is quoted and nothing is escaped, but a backslash still binds the next character. So a name
must not end in an odd number of backslashes, as the last of them would bind the closing bracket,
and a value must not if its line ends with a bare newline, as the line would go on. A value whose
line ends otherwise may: what is bound then is a blank at its end, or nothing.

## Main definitions

* `Ini.Written` — how items are written
* `Ini.AtLines` — reading has come to a line
* `Ini.itemsOf`, `Ini.sectionsOf` — what sections are written as, and what they are read as

## Main results

* `Ini.Written.reads` — what is written is read
* `Ini.parse_of_written` — a document gives back its sections, character for character
* `Ini.parse_of_binds` — a value that binds its newline takes the next line with it
-/

namespace PipelineLint.Ini

open Text

/-! ## Lines -/

/-- How a line may end, when `rest` are the lines behind it. -/
inductive Ends : List Char → List Char → Prop
  | newline {rest} : Ends ['\n'] rest
  | carriage {rest} : Ends ['\r', '\n'] rest
  | last : Ends [] []

/-- What can stand between the brackets of a header. -/
structure IsName (name : String) : Prop where
  bracket : ']' ∉ name.toList
  lineEnd : name.toList.all (!isLineEnd ·)
  trimmed : IsTrimmed name.toList

/-- A key: letters of ASCII, and at least one. -/
structure IsKey (key : String) : Prop where
  nonempty : key.toList ≠ []
  letters : key.toList.all Char.isAlpha

/-- What can stand behind a separator. -/
structure IsValue (value : String) : Prop where
  lineEnd : value.toList.all (!isLineEnd ·)
  trimmed : IsTrimmed value.toList

theorem IsName.not_isLineEnd {name : String} (h : IsName name) :
    ∀ x ∈ name.toList, isLineEnd x = false := by
  simpa using h.lineEnd

theorem IsKey.isAlpha {key : String} (h : IsKey key) : ∀ x ∈ key.toList, x.isAlpha = true :=
  List.all_eq_true.mp h.letters

theorem IsValue.not_isLineEnd {value : String} (h : IsValue value) :
    ∀ x ∈ value.toList, isLineEnd x = false := by
  simpa using h.lineEnd

/-- What a line says. -/
inductive Item where
  | header (name : String)
  | entry (key value : String)
  deriving DecidableEq, Repr

/-- How items are written. -/
inductive Written : List Item → List Char → Prop
  | nil : Written [] []
  | blank {items pad ending rest} (hpad : pad.all isIndent) (hends : Ends ending rest)
      (hrest : Written items rest) :
      Written items (pad ++ (ending ++ rest))
  | comment {items mark text ending rest} (hmark : mark = '#' ∨ mark = ';') (htext : '\n' ∉ text)
      (hends : Ends ending rest) (hrest : Written items rest) :
      Written items (mark :: (text ++ (ending ++ rest)))
  | header {items name ending rest} (hname : IsName name) (hbinds : binds name.toList = false)
      (hends : Ends ending rest) (hrest : Written items rest) :
      Written (.header name :: items) ('[' :: (name.toList ++ ']' :: (ending ++ rest)))
  | entry {items key pad separator pad' value ending rest} (hkey : IsKey key)
      (hpad : pad.all isIndent) (hseparator : isSeparator separator) (hpad' : pad'.all isIndent)
      (hvalue : IsValue value) (hbinds : ending = ['\n'] → binds value.toList = false)
      (hends : Ends ending rest) (hrest : Written items rest) :
      Written (.entry key value :: items)
        (key.toList ++ (pad ++ separator :: (pad' ++ (value.toList ++ (ending ++ rest)))))

/-! ## Between lines -/

/-- Reading has come to the lines `rest`, or over blanks at their front. -/
def AtLines (rest : List Char) (c : Cursor) : Prop :=
  ∃ before, (rest ≠ [] → before.head?.all (· == '\n')) ∧
    (c = ⟨before, rest⟩ ∨ c = Cursor.skipBlanks before rest)

theorem AtLines.length_le {rest : List Char} {c : Cursor} (h : AtLines rest c) :
    c.rest.length ≤ rest.length := by
  obtain ⟨before, -, rfl | rfl⟩ := h
  · exact Nat.le_refl _
  · exact length_rest_skipBlanks before rest

/-- Lines that start with no blank are where reading has come to. -/
theorem AtLines.eq_of_not_isBlank {x : Char} {s : List Char} {c : Cursor} (h : AtLines (x :: s) c)
    (hx : isBlank x = false) :
    ∃ before, c = ⟨before, x :: s⟩ ∧ before.head?.all (· == '\n') := by
  obtain ⟨before, hbefore, rfl | rfl⟩ := h
  · exact ⟨before, rfl, hbefore (List.cons_ne_nil x s)⟩
  · exact ⟨before, skipBlanks_of_not_isBlank hx before s, hbefore (List.cons_ne_nil x s)⟩

/-- Behind a newline, reading goes on over blanks or stays before an indentation. -/
theorem atLines_skipBlanks (before rest : List Char) :
    AtLines rest (Cursor.skipBlanks before ('\n' :: rest)) := by
  refine ⟨'\n' :: before, fun _ => rfl, ?_⟩
  rw [Cursor.skipBlanks]
  by_cases hindent : (rest.head? == some ' ' || rest.head? == some '\t') = true
  · exact .inl (by simp [isBlank, hindent])
  · exact .inr (by simp [isBlank, hindent])

theorem Ends.head_isLineEnd {ending rest : List Char} (h : Ends ending rest) :
    (ending ++ rest).head?.all isLineEnd := by
  cases h with
  | newline => rfl
  | carriage => rfl
  | last => rfl

/-- The end of a line leads to the next lines. -/
theorem Ends.atLines {ending rest : List Char} (h : Ends ending rest) (before : List Char) :
    AtLines rest (Cursor.skipBlanks before (ending ++ rest)) := by
  cases h with
  | newline => exact atLines_skipBlanks before rest
  | carriage =>
    have hskip : Cursor.skipBlanks before ('\r' :: '\n' :: rest) =
        Cursor.skipBlanks ('\r' :: before) ('\n' :: rest) := by
      rw [Cursor.skipBlanks]
      rfl
    exact hskip ▸ atLines_skipBlanks ('\r' :: before) rest
  | last => exact ⟨before, fun h => absurd rfl h, .inl rfl⟩

/-! ## Steps over a line -/

variable {d d' : Draft} {c : Cursor} {ending rest : List Char}

theorem length_rest_advance (c : Cursor) : c.advance.rest.length ≤ c.rest.length := by
  rw [Cursor.advance]
  split
  · exact Nat.le_refl _
  · next h => simp [h]

theorem step_lineEnd {x : Char} (hx : isLineEnd x = true) (d : Draft) (before s : List Char) :
    step d ⟨before, x :: s⟩ = .ok (d, Cursor.skipBlanks (x :: before) s) := by
  rcases isLineEnd_iff.mp hx with rfl | rfl <;> rfl

/-- A line that is nothing but indentation is passed over, with the first character of its end. -/
theorem step_pad {pad : List Char} (hpad : ∀ x ∈ pad, isIndent x = true) (hne : pad ≠ [])
    (hrest : rest.head?.all isLineEnd) (d : Draft) (before : List Char) :
    step d ⟨before, pad ++ rest⟩ = .ok (d, Cursor.advance ⟨pad.reverse ++ before, rest⟩) := by
  have hskip : Cursor.skipWhile isIndent ⟨before, pad ++ rest⟩ = ⟨pad.reverse ++ before, rest⟩ := by
    refine skipWhile_append hpad ?_ before
    cases rest with
    | nil => rfl
    | cons x rest =>
      simp only [List.head?_cons, Option.all_some, Bool.not_eq_true'] at hrest ⊢
      by_contra hx
      rw [Bool.not_eq_false] at hx
      simp [isLineEnd_of_isIndent hx] at hrest
  cases pad with
  | nil => exact absurd rfl hne
  | cons y pad =>
    have hy := hpad y List.mem_cons_self
    have hother : (y == ';' || y == '#') = false ∧ (y == '[') = false ∧ isSeparator y = false := by
      rcases isIndent_iff.mp hy with rfl | rfl <;> exact ⟨rfl, rfl, rfl⟩
    rw [List.cons_append] at hskip ⊢
    rw [step]
    simp only [hother, hy, hskip, if_true, Bool.false_eq_true, if_false]
    cases rest with
    | nil => rfl
    | cons x rest =>
      have hx : isLineEnd x = true := by simpa using hrest
      rcases isLineEnd_iff.mp hx with rfl | rfl <;> rfl

theorem step_header {name : List Char} (hbracket : ']' ∉ name)
    (hline : ∀ x ∈ name, isLineEnd x = false) (htrimmed : IsTrimmed name)
    (hbinds : binds name = false) (d : Draft) (before s : List Char) :
    step d ⟨before, '[' :: (name ++ ']' :: s)⟩ =
      .ok (d.open name, Cursor.skipBlanks (']' :: (name.reverse ++ '[' :: before)) s) := by
  have hread : Cursor.readUntil isClosing ('[' :: before) (name ++ ']' :: s) =
      (name, ⟨name.reverse ++ '[' :: before, ']' :: s⟩) := by
    refine readUntil_append_stop _ (fun x hx => ?_) (fun h => ?_) hbinds rfl (by decide) s
    · exact beq_false_of_ne fun heq => hbracket (heq ▸ hx)
    · cases hline _ h
  have hheader : readHeader d ⟨before, '[' :: (name ++ ']' :: s)⟩ =
      .ok (d.open name, ⟨']' :: (name.reverse ++ '[' :: before), s⟩) := by
    rw [readHeader]
    simp only [Cursor.advance, hread, trim_eq_self htrimmed, List.isEmpty_cons,
      Bool.false_eq_true, if_false]
  rw [step]
  dsimp only
  rw [hheader]
  rfl

theorem ne_of_isAlpha {x y : Char} (hx : x.isAlpha = true) (hy : y.isAlpha = false) : x ≠ y := by
  rintro rfl
  rw [hx] at hy
  cases hy

theorem isBlank_of_isAlpha {x : Char} (hx : x.isAlpha = true) : isBlank x = false := by
  have hrange : (65 ≤ x.toNat ∧ x.toNat ≤ 90) ∨ (97 ≤ x.toNat ∧ x.toNat ≤ 122) := by
    rcases (Bool.or_eq_true _ _).mp hx with hupper | hlower
    · obtain ⟨hle, hge⟩ := of_decide_eq_true hupper
      exact .inl ⟨UInt32.le_iff_toNat_le.mp hle, UInt32.le_iff_toNat_le.mp hge⟩
    · obtain ⟨hle, hge⟩ := (Bool.and_eq_true _ _).mp hlower
      exact .inr ⟨UInt32.le_iff_toNat_le.mp (of_decide_eq_true hle),
        UInt32.le_iff_toNat_le.mp (of_decide_eq_true hge)⟩
  simp only [isBlank, Bool.or_eq_false_iff, Bool.and_eq_false_iff, decide_eq_false_iff_not,
    beq_eq_false_iff_ne]
  omega

/-- A letter starts nothing but a key. -/
theorem plain_of_isAlpha {x : Char} (hx : x.isAlpha = true) :
    (x == ';' || x == '#') = false ∧ (x == '[') = false ∧ isSeparator x = false ∧
      isIndent x = false ∧ isLineEnd x = false := by
  have hblank := isBlank_of_isAlpha hx
  have hnot {p : Char → Bool} (hp : p x = true → isBlank x = true) : p x = false :=
    Bool.eq_false_iff.mpr fun h => by simp [hp h] at hblank
  have hne {y : Char} (hy : y.isAlpha = false) : (x == y) = false :=
    beq_false_of_ne (ne_of_isAlpha hx hy)
  refine ⟨?_, hne rfl, ?_, hnot isBlank_of_isIndent, hnot isBlank_of_isLineEnd⟩
  · rw [hne rfl, hne rfl, Bool.or_false]
  · rw [isSeparator, hne rfl, hne rfl, Bool.or_false]

theorem IsKey.isTrimmed {key : String} (hkey : IsKey key) : IsTrimmed key.toList := by
  have hnot {x : Char} (hx : x ∈ key.toList) : (!isBlank x) = true := by
    rw [isBlank_of_isAlpha (hkey.isAlpha x hx)]
    rfl
  refine ⟨?_, ?_⟩
  · cases h : key.toList.head? with
    | none => rfl
    | some x => exact hnot (List.mem_of_head? h)
  · cases h : key.toList.getLast? with
    | none => rfl
    | some x => exact hnot (List.mem_of_getLast? h)

theorem step_key {key : String} (hkey : IsKey key) {pad : List Char}
    (hpad : ∀ x ∈ pad, isIndent x = true) {separator : Char} (hseparator : isSeparator separator)
    (d : Draft) (before s : List Char) :
    ∃ before', step d ⟨before, key.toList ++ (pad ++ separator :: s)⟩ =
      .ok ({ d with key := key.toList }, ⟨before', separator :: s⟩) := by
  have hstop : ∀ x ∈ key.toList ++ pad, isSeparator x = false ∧ x ≠ '\n' ∧ x ≠ '\\' := by
    intro x hx
    rcases List.mem_append.mp hx with hx | hx
    · have hletter := hkey.isAlpha x hx
      exact ⟨(plain_of_isAlpha hletter).2.2.1, ne_of_isAlpha hletter rfl, ne_of_isAlpha hletter rfl⟩
    · rcases isIndent_iff.mp (hpad x hx) with rfl | rfl <;> decide
  have hread : Cursor.readUntil isSeparator before (key.toList ++ (pad ++ separator :: s)) =
      (key.toList ++ pad, ⟨(key.toList ++ pad).reverse ++ before, separator :: s⟩) := by
    rw [← List.append_assoc]
    refine readUntil_append_stop before (fun x hx => (hstop x hx).1)
      (fun h => (hstop _ h).2.1 rfl) (binds_of_not_mem fun h => (hstop _ h).2.2 rfl) hseparator ?_ s
    rcases isSeparator_iff.mp hseparator with rfl | rfl <;> decide
  have htrim : trim (key.toList ++ pad) = key.toList :=
    trim_append hkey.isTrimmed fun x hx => isBlank_of_isIndent (hpad x hx)
  have hsettle (before : List Char) :
      Cursor.skipBlanks before (separator :: s) = ⟨before, separator :: s⟩ :=
    skipBlanks_of_not_isBlank (isBlank_of_isSeparator hseparator) before s
  refine ⟨(key.toList ++ pad).reverse ++ before, ?_⟩
  cases hchars : key.toList with
  | nil => exact absurd hchars hkey.nonempty
  | cons k more =>
    have hplain := plain_of_isAlpha (hkey.isAlpha k (by rw [hchars]; exact List.mem_cons_self))
    rw [hchars] at hread htrim
    rw [List.cons_append] at hread ⊢
    rw [step]
    simp only [hplain, Bool.false_eq_true, if_false, hread, List.isEmpty_cons, htrim, settle,
      hsettle]

theorem not_mem_newline {s : List Char} (hs : ∀ x ∈ s, isLineEnd x = false) : '\n' ∉ s := by
  intro h
  cases hs _ h

theorem Ends.readUntil (h : Ends ending rest) (before : List Char) :
    Cursor.readUntil isLineEnd before (ending ++ rest) = ([], ⟨before, ending ++ rest⟩) := by
  cases h with
  | newline => exact readUntil_of_stop rfl (by decide) before rest
  | carriage => exact readUntil_of_stop rfl (by decide) before ('\n' :: rest)
  | last => rfl

/-- A value is read to the end of its line. When it binds a carriage return, that is read, too. -/
theorem exists_readUntil_value {value : List Char} (hline : ∀ x ∈ value, isLineEnd x = false)
    (hbinds : ending = ['\n'] → binds value = false) (hends : Ends ending rest)
    (before : List Char) :
    ∃ tail c, Cursor.readUntil isLineEnd before (value ++ (ending ++ rest)) = (value ++ tail, c) ∧
      (∀ x ∈ tail, isBlank x = true) ∧ AtLines rest (settle c) := by
  cases hb : binds value with
  | false =>
    refine ⟨[], ⟨value.reverse ++ before, ending ++ rest⟩, ?_, List.forall_mem_nil _,
      hends.atLines _⟩
    rw [readUntil_append isLineEnd before hline (not_mem_newline hline) hb, hends.readUntil]
  | true =>
    obtain ⟨s, rfl, hs⟩ := exists_of_binds hb
    have hline' : ∀ x ∈ s, isLineEnd x = false := fun x hx => hline x (List.mem_append_left _ hx)
    rw [List.append_assoc, readUntil_append isLineEnd before hline' (not_mem_newline hline') hs]
    cases hends with
    | newline => cases (hbinds rfl).symm.trans hb
    | carriage =>
      refine ⟨['\r'], ⟨'\r' :: '\\' :: (s.reverse ++ before), '\n' :: rest⟩, ?_,
        List.forall_mem_singleton.mpr rfl, atLines_skipBlanks _ rest⟩
      have hstop (before : List Char) :
          Cursor.readUntil isLineEnd before ('\n' :: rest) = ([], ⟨before, '\n' :: rest⟩) :=
        readUntil_of_stop rfl (by decide) before rest
      simp [Cursor.readUntil, hstop]
    | last =>
      exact ⟨[], ⟨'\\' :: (s.reverse ++ before), []⟩, by simp [Cursor.readUntil, isLineEnd],
        List.forall_mem_nil _, Ends.last.atLines _⟩

/-- Blanks before a value are passed over, but not the end of its line. -/
theorem skipWhile_before_value {value pad s : List Char} (hvalue : IsTrimmed value)
    (hpad : ∀ x ∈ pad, isIndent x = true) (hs : value = [] → s.head?.all isLineEnd)
    (before : List Char) :
    Cursor.skipWhile (fun x => isBlank x && !isLineEnd x) ⟨before, pad ++ (value ++ s)⟩ =
      ⟨pad.reverse ++ before, value ++ s⟩ := by
  refine skipWhile_append (fun x hx => ?_) ?_ before
  · rw [isBlank_of_isIndent (hpad x hx), isLineEnd_of_isIndent (hpad x hx)]
    rfl
  · cases value with
    | nil =>
      cases s with
      | nil => rfl
      | cons x s =>
        have hx : isLineEnd x = true := by simpa using hs rfl
        simp [hx]
    | cons x value =>
      have hx : isBlank x = false := by simpa using hvalue.1
      simp [hx]

/-- A value is read to the end of its line, and blanks around it are left out. -/
theorem exists_readValue {value : String} (hvalue : IsValue value) {pad : List Char}
    (hpad : ∀ x ∈ pad, isIndent x = true) (hbinds : ending = ['\n'] → binds value.toList = false)
    (hends : Ends ending rest) (d : Draft) (separator : Char) (before : List Char) :
    ∃ c, readValue d ⟨before, separator :: (pad ++ (value.toList ++ (ending ++ rest)))⟩ =
      (d.add value.toList, c) ∧ AtLines rest (settle c) := by
  have hstart := skipWhile_before_value hvalue.trimmed hpad (fun _ => hends.head_isLineEnd)
    (separator :: before)
  obtain ⟨tail, c, hread, htail, hlines⟩ := exists_readUntil_value hvalue.not_isLineEnd hbinds hends
    (pad.reverse ++ separator :: before)
  refine ⟨c, ?_, hlines⟩
  rw [readValue]
  simp only [Cursor.advance, hstart, hread, trim_append hvalue.trimmed htail]

theorem step_value {separator : Char} (hseparator : isSeparator separator)
    (hkey : d.key ≠ []) {before s : List Char}
    (hvalue : readValue d ⟨before, separator :: s⟩ = (d', c)) :
    step d ⟨before, separator :: s⟩ = .ok (d', settle c) := by
  have hother : (separator == ';' || separator == '#') = false ∧ (separator == '[') = false := by
    rcases isSeparator_iff.mp hseparator with rfl | rfl <;> exact ⟨rfl, rfl⟩
  rw [step]
  simp only [hother, hseparator, List.isEmpty_eq_false_iff.mpr hkey, hvalue, if_true,
    Bool.false_eq_true, if_false]

theorem exists_step_comment {mark : Char} (hmark : mark = '#' ∨ mark = ';') {text : List Char}
    (htext : '\n' ∉ text) (hends : Ends ending rest) (d : Draft) {before : List Char}
    (hbefore : before.head?.all (· == '\n')) :
    ∃ c, step d ⟨before, mark :: (text ++ (ending ++ rest))⟩ = .ok (d, c) ∧ AtLines rest c := by
  have hstep : step d ⟨before, mark :: (text ++ (ending ++ rest))⟩ =
      .ok (d, settle (Cursor.skipWhile (· != '\n')
        ⟨before, mark :: (text ++ (ending ++ rest))⟩).advance) := by
    have hcomment : (mark == ';' || mark == '#') = true := by
      rcases hmark with rfl | rfl <;> rfl
    rw [step]
    simp only [hcomment, Cursor.atLineStart, hbefore, if_true]
  have hmore : ∀ x ∈ mark :: text, (x != '\n') = true := by
    intro x hx
    rcases List.mem_cons.mp hx with rfl | hx
    · rcases hmark with rfl | rfl <;> rfl
    · exact bne_iff_ne.mpr fun h => htext (h ▸ hx)
  refine ⟨_, hstep, ?_⟩
  rw [← List.cons_append]
  cases hends with
  | newline =>
    rw [skipWhile_append hmore rfl before]
    exact ⟨'\n' :: ((mark :: text).reverse ++ before), fun _ => rfl, .inr rfl⟩
  | carriage =>
    have hmore' : ∀ x ∈ mark :: text ++ ['\r'], (x != '\n') = true := by
      intro x hx
      rcases List.mem_append.mp hx with hx | hx
      · exact hmore x hx
      · obtain rfl := List.mem_singleton.mp hx
        rfl
    have hassoc : mark :: text ++ (['\r', '\n'] ++ rest) =
        (mark :: text ++ ['\r']) ++ '\n' :: rest := by simp
    rw [hassoc, skipWhile_append hmore' rfl before]
    exact ⟨'\n' :: ((mark :: text ++ ['\r']).reverse ++ before), fun _ => rfl, .inr rfl⟩
  | last =>
    rw [skipWhile_append hmore rfl before]
    exact ⟨(mark :: text).reverse ++ before, fun h => absurd rfl h, .inl rfl⟩

/-! ## Documents -/

/-- Takes up what a line says. -/
def Draft.take (d : Draft) : Item → Draft
  | .header name => d.open name.toList
  | .entry key value => { d with key := key.toList }.add value.toList

theorem Reads.key {key : String} (hkey : IsKey key) {pad : List Char}
    (hpad : ∀ x ∈ pad, isIndent x = true) {separator : Char} (hseparator : isSeparator separator)
    {s : List Char} (hc : AtLines (key.toList ++ (pad ++ separator :: s)) c)
    (hmore : ∀ before, Reads { d with key := key.toList } ⟨before, separator :: s⟩ d') :
    Reads d c d' := by
  obtain ⟨k, chars, hchars⟩ := List.exists_cons_of_ne_nil hkey.nonempty
  have hletter : k.isAlpha = true := hkey.isAlpha k (by rw [hchars]; exact List.mem_cons_self)
  have hcons (s : List Char) : key.toList ++ s = k :: (chars ++ s) := by
    rw [hchars, List.cons_append]
  rw [hcons] at hc
  obtain ⟨before, rfl, -⟩ := hc.eq_of_not_isBlank (isBlank_of_isAlpha hletter)
  rw [← hcons]
  obtain ⟨before', hstep⟩ := step_key hkey hpad hseparator d before s
  have hpositive := List.length_pos_iff.mpr hkey.nonempty
  refine .step hstep ?_ (hmore before')
  simp only [List.length_cons, List.length_append]
  omega

section

variable (hends : Ends ending rest)
include hends

theorem Reads.lineEnd {before : List Char} (hmore : ∀ c, AtLines rest c → Reads d c d') :
    Reads d ⟨before, ending ++ rest⟩ d' := by
  cases hends with
  | newline =>
    refine .step (step_lineEnd rfl d before rest) ?_ (hmore _ ⟨_, fun _ => rfl, .inr rfl⟩)
    exact Nat.lt_succ_of_le (length_rest_skipBlanks ('\n' :: before) rest)
  | carriage =>
    refine .step (step_lineEnd rfl d before ('\n' :: rest)) ?_ (hmore _ (atLines_skipBlanks _ rest))
    exact Nat.lt_succ_of_le (length_rest_skipBlanks ('\r' :: before) ('\n' :: rest))
  | last => exact hmore _ ⟨before, fun h => absurd rfl h, .inl rfl⟩

theorem Reads.blank {pad : List Char} (hpad : ∀ x ∈ pad, isIndent x = true)
    (hc : AtLines (pad ++ (ending ++ rest)) c) (hmore : ∀ c, AtLines rest c → Reads d c d') :
    Reads d c d' := by
  obtain ⟨before, -, rfl | rfl⟩ := hc
  · cases pad with
    | nil => exact .lineEnd hends hmore
    | cons x pad =>
      refine .step (step_pad hpad (List.cons_ne_nil x pad) hends.head_isLineEnd d before) ?_ ?_
      · have hadvance := length_rest_advance ⟨(x :: pad).reverse ++ before, ending ++ rest⟩
        simp only [List.length_append, List.length_cons] at hadvance ⊢
        omega
      · cases hends with
        | newline => exact hmore _ ⟨_, fun _ => rfl, .inl rfl⟩
        -- Only the carriage return was passed over, so the newline makes an empty line.
        | carriage => exact .lineEnd .newline hmore
        | last => exact hmore _ ⟨_, fun h => absurd rfl h, .inl rfl⟩
  · rw [skipBlanks_append hpad]
    exact hmore _ (hends.atLines _)

theorem Reads.comment {mark : Char} (hmark : mark = '#' ∨ mark = ';') {text : List Char}
    (htext : '\n' ∉ text) (hc : AtLines (mark :: (text ++ (ending ++ rest))) c)
    (hmore : ∀ c, AtLines rest c → Reads d c d') : Reads d c d' := by
  have hblank : isBlank mark = false := by
    rcases hmark with rfl | rfl <;> rfl
  obtain ⟨before, rfl, hbefore⟩ := hc.eq_of_not_isBlank hblank
  obtain ⟨c, hstep, hlines⟩ := exists_step_comment hmark htext hends d hbefore
  refine .step hstep ?_ (hmore c hlines)
  have hlength := hlines.length_le
  simp only [List.length_cons, List.length_append]
  omega

theorem Reads.header {name : String} (hname : IsName name) (hbinds : binds name.toList = false)
    (hc : AtLines ('[' :: (name.toList ++ ']' :: (ending ++ rest))) c)
    (hmore : ∀ c, AtLines rest c → Reads (d.take (.header name)) c d') : Reads d c d' := by
  obtain ⟨before, rfl, -⟩ := hc.eq_of_not_isBlank rfl
  have hlines := hends.atLines (']' :: (name.toList.reverse ++ '[' :: before))
  refine .step (step_header hname.bracket hname.not_isLineEnd hname.trimmed hbinds d before _) ?_
    (hmore _ hlines)
  have hlength := hlines.length_le
  simp only [List.length_cons, List.length_append]
  omega

theorem Reads.entry {key : String} (hkey : IsKey key) {pad pad' : List Char}
    (hpad : ∀ x ∈ pad, isIndent x = true) {separator : Char} (hseparator : isSeparator separator)
    (hpad' : ∀ x ∈ pad', isIndent x = true) {value : String} (hvalue : IsValue value)
    (hbinds : ending = ['\n'] → binds value.toList = false)
    (hc : AtLines
      (key.toList ++ (pad ++ separator :: (pad' ++ (value.toList ++ (ending ++ rest))))) c)
    (hmore : ∀ c, AtLines rest c → Reads (d.take (.entry key value)) c d') : Reads d c d' := by
  refine .key hkey hpad hseparator hc fun before => ?_
  obtain ⟨c, hread, hlines⟩ :=
    exists_readValue hvalue hpad' hbinds hends { d with key := key.toList } separator before
  refine .step (step_value hseparator hkey.nonempty hread) ?_ (hmore _ hlines)
  have hlength := hlines.length_le
  simp only [List.length_cons, List.length_append]
  omega

end

/-- **What is written is read.** -/
theorem Written.reads {items : List Item} {text : List Char} (h : Written items text)
    (hc : AtLines text c) (d : Draft) : Reads d c (items.foldl Draft.take d) := by
  induction h generalizing c d with
  | nil =>
    obtain ⟨before, -, rfl | rfl⟩ := hc
    · exact reads_end d before
    · exact reads_end d before
  | blank hpad hends _ ih =>
    exact .blank hends (List.all_eq_true.mp hpad) hc fun c hc => ih hc d
  | comment hmark htext hends _ ih => exact .comment hends hmark htext hc fun c hc => ih hc d
  | header hname hbinds hends _ ih => exact .header hends hname hbinds hc fun c hc => ih hc _
  | entry hkey hpad hseparator hpad' hvalue hbinds hends _ ih =>
    exact .entry hends hkey (List.all_eq_true.mp hpad) hseparator (List.all_eq_true.mp hpad') hvalue
      hbinds hc fun c hc => ih hc _

/-- A name with the entries below it. -/
abbrev Listing := String × List (String × String)

/-- What the lines of a document say, the header of each section first. -/
def itemsOf (sections : List Listing) : List Item :=
  sections.flatMap fun (name, entries) =>
    .header name :: entries.map fun (key, value) => .entry key value

/-- Sections as they are read, behind one without a name that has no entries. -/
def sectionsOf (sections : List Listing) : List Section :=
  ⟨none, []⟩ :: sections.map fun (name, entries) => ⟨some name, entries⟩

theorem foldl_take_entries (d : Draft) (entries : List (String × String)) :
    ∃ key, (entries.map fun (key, value) => Item.entry key value).foldl Draft.take d =
      { d with current := { d.current with entries := d.current.entries ++ entries }, key } := by
  induction entries generalizing d with
  | nil => exact ⟨d.key, by rw [List.append_nil]; rfl⟩
  | cons entry entries ih =>
    obtain ⟨key, hkey⟩ := ih (d.take (.entry entry.1 entry.2))
    refine ⟨key, ?_⟩
    rw [List.map_cons, List.foldl_cons, hkey]
    simp [Draft.take, Draft.add]

theorem sections_foldl_take (d : Draft) (sections : List Listing) :
    ((itemsOf sections).foldl Draft.take d).sections =
      d.sections ++ sections.map fun (name, entries) => ⟨some name, entries⟩ := by
  induction sections generalizing d with
  | nil => exact (List.append_nil _).symm
  | cons s sections ih =>
    obtain ⟨name, entries⟩ := s
    obtain ⟨key, hentries⟩ := foldl_take_entries (d.take (.header name)) entries
    have hcons : itemsOf ((name, entries) :: sections) = .header name ::
        ((entries.map fun (key, value) => Item.entry key value) ++ itemsOf sections) := rfl
    rw [hcons, List.foldl_cons, List.foldl_append, hentries, ih]
    simp [Draft.take, Draft.open, Draft.sections]

theorem parse_of_reads_items {sections : List Listing} {text : List Char}
    (h : ∀ c, AtLines text c → Reads {} c ((itemsOf sections).foldl Draft.take {})) :
    parse (String.ofList text) = .ok (sectionsOf sections) := by
  have hreads := h ⟨[], text⟩ ⟨[], fun _ => rfl, .inl rfl⟩
  have hchars : (String.ofList text).toList = text := String.toList_ofList
  rw [← hchars] at hreads
  rw [parse_of_reads hreads, sections_foldl_take]
  rfl

/-- **A document gives back its sections**, character for character. -/
theorem parse_of_written {sections : List Listing} {text : List Char}
    (h : Written (itemsOf sections) text) :
    parse (String.ofList text) = .ok (sectionsOf sections) :=
  parse_of_reads_items fun _ hc => h.reads hc {}

/-! ## Lines that go on -/

/-- What follows a value that binds its newline belongs to it, but neither the backslash nor the
newline does. -/
theorem readUntil_of_binds {value line : List Char} (hvalue : ∀ x ∈ value, isLineEnd x = false)
    (hbinds : binds value = true) (hline : ∀ x ∈ line, isLineEnd x = false)
    (hline' : binds line = false) (hends : Ends ending rest) (before : List Char) :
    Cursor.readUntil isLineEnd before (value ++ '\n' :: (line ++ (ending ++ rest))) =
      (value.dropLast ++ line,
        ⟨line.reverse ++ '\n' :: (value.reverse ++ before), ending ++ rest⟩) := by
  obtain ⟨s, rfl, hs⟩ := exists_of_binds hbinds
  have hvalue' : ∀ x ∈ s, isLineEnd x = false := fun x hx => hvalue x (List.mem_append_left _ hx)
  rw [List.append_assoc, readUntil_append isLineEnd before hvalue' (not_mem_newline hvalue') hs,
    List.singleton_append, Cursor.readUntil,
    readUntil_append isLineEnd _ hline (not_mem_newline hline) hline', hends.readUntil]
  simp

theorem exists_readValue_of_binds {value line : List Char}
    (hvalue : ∀ x ∈ value, isLineEnd x = false) (htrimmed : IsTrimmed value)
    (hbinds : binds value = true) (hline : ∀ x ∈ line, isLineEnd x = false)
    (hline' : binds line = false) {pad : List Char} (hpad : ∀ x ∈ pad, isIndent x = true)
    (hends : Ends ending rest) (d : Draft) (separator : Char) (before : List Char) :
    ∃ c, readValue d
        ⟨before, separator :: (pad ++ (value ++ '\n' :: (line ++ (ending ++ rest))))⟩ =
      (d.add (trim (value.dropLast ++ line)), c) ∧ AtLines rest (settle c) := by
  have hne : value ≠ [] := by
    rintro rfl
    cases hbinds
  have hstart (s : List Char) : Cursor.skipWhile (fun x => isBlank x && !isLineEnd x)
      ⟨separator :: before, pad ++ (value ++ s)⟩ =
        ⟨pad.reverse ++ separator :: before, value ++ s⟩ :=
    skipWhile_before_value htrimmed hpad (fun h => absurd h hne) (separator :: before)
  have hread := readUntil_of_binds hvalue hbinds hline hline' hends
    (pad.reverse ++ separator :: before)
  refine ⟨⟨line.reverse ++ '\n' :: (value.reverse ++ (pad.reverse ++ separator :: before)),
    ending ++ rest⟩, ?_, hends.atLines _⟩
  rw [readValue]
  simp only [Cursor.advance, hstart, hread]

/-- **A value that binds its newline takes the next line with it**, whatever stands there. -/
theorem parse_of_binds {name key value : String} {line : List Char} (hname : IsName name)
    (hname' : binds name.toList = false) (hkey : IsKey key) {pad pad' : List Char}
    (hpad : pad.all isIndent) {separator : Char} (hseparator : isSeparator separator)
    (hpad' : pad'.all isIndent) (hvalue : IsValue value)
    (hbinds : binds value.toList = true) (hline : line.all (!isLineEnd ·))
    (hline' : binds line = false) (hends : Ends ending rest)
    {entries : List (String × String)} {sections : List Listing}
    (hrest : Written (entries.map (fun (key, value) => .entry key value) ++ itemsOf sections)
      rest) :
    parse (String.ofList ('[' :: (name.toList ++ ']' :: (['\n'] ++ (key.toList ++
      (pad ++ separator :: (pad' ++ (value.toList ++ '\n' :: (line ++ (ending ++ rest)))))))))) =
      .ok (sectionsOf ((name,
        (key, String.ofList (trim (value.toList.dropLast ++ line))) :: entries) :: sections)) := by
  refine parse_of_reads_items (fun c hc => ?_)
  refine .header .newline hname hname' hc fun c hc => ?_
  refine .key hkey (List.all_eq_true.mp hpad) hseparator hc fun before => ?_
  let d := ({} : Draft).take (.header name)
  let whole := trim (value.toList.dropLast ++ line)
  have hadd : { d with key := key.toList }.add whole =
      d.take (.entry key (String.ofList whole)) := by
    rw [Draft.take, String.toList_ofList]
  obtain ⟨c, hread, hlines⟩ := exists_readValue_of_binds hvalue.not_isLineEnd hvalue.trimmed hbinds
    (by simpa using hline) hline' (List.all_eq_true.mp hpad') hends { d with key := key.toList }
    separator before
  rw [hadd] at hread
  refine .step (step_value hseparator hkey.nonempty hread) ?_ (hrest.reads hlines _)
  have hlength := hlines.length_le
  simp only [List.length_cons, List.length_append]
  omega

end PipelineLint.Ini
