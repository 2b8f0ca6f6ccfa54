import Mathlib.Data.List.TakeWhile
import Mathlib.Data.Nat.Digits.Defs
import PipelineLint.Text.Blank
import PipelineLint.Text.DecimalDigit

/-!
# Runs of characters

A text is taken apart where a run of characters of one kind ends. A run up to a character ends at
the first place where it stands, and a run of blanks at the first character that is none. Trimming
takes the blanks around a text, and a text that neither starts nor ends with a blank is left as it
is.

## Main definitions

* `Text.IsTrimmed` — no blank stands at either end of a text
* `Text.IsCore` — what is left of a text without the blanks around it

## Main results

* `Text.takeWhile_ne_append`, `Text.dropWhile_ne_append` — what stands before a character, and the
  rest
* `Text.digitsValue_eq_ofDigits` — the number that a run of digits denotes
* `Text.trim_append`, `Text.trim_eq_self` — what is taken, and what is left
* `Text.trim_eq_iff` — trimming leaves the core
-/

namespace PipelineLint.Text

/-! ## Up to a character -/

section

variable {p : Char → Bool} {c : Char} {run : List Char}

/-- A run that has ended does not go on behind a character that ends it. -/
theorem dropWhile_append_cons (hc : p c = false) (s rest : List Char) :
    (s ++ c :: rest).dropWhile p = s.dropWhile p ++ c :: rest := by
  have hstart : (c :: rest).dropWhile p = c :: rest := List.dropWhile_cons_of_neg (by simp [hc])
  rw [List.dropWhile_append, hstart]
  split
  next hempty => rw [List.isEmpty_iff.mp hempty, List.nil_append]
  next => rfl

theorem ne_of_notMem (h : c ∉ run) : ∀ x ∈ run, (x != c) = true := fun x hx => by
  simpa using fun (heq : x = c) => h (heq ▸ hx)

theorem takeWhile_ne_append (h : c ∉ run) (rest : List Char) :
    (run ++ c :: rest).takeWhile (· != c) = run := by
  rw [List.takeWhile_append_of_pos (ne_of_notMem h), List.takeWhile_cons_of_neg (by simp),
    List.append_nil]

theorem dropWhile_ne_append (h : c ∉ run) (rest : List Char) :
    (run ++ c :: rest).dropWhile (· != c) = c :: rest := by
  rw [List.dropWhile_append_of_pos (ne_of_notMem h), List.dropWhile_cons_of_neg (by simp)]

end

/-! ## Digits -/

theorem digitsValue_eq_ofDigits (digits : List Char) :
    digitsValue digits =
      Nat.ofDigits 10 (digits.reverse.map fun c => c.toNat - '0'.toNat) := by
  rw [digitsValue, ← List.foldr_reverse, Nat.ofDigits_eq_foldr, List.foldr_map]
  congr 1
  funext c n
  exact Nat.add_comm _ _

/-! ## Trimming -/

variable {s : List Char}

/-- No blank stands at either end of a text. -/
def IsTrimmed (s : List Char) : Prop :=
  s.head?.all (!isBlank ·) ∧ s.getLast?.all (!isBlank ·)

theorem isTrimmed_of_forall (h : ∀ c ∈ s, isBlank c = false) : IsTrimmed s := by
  simp only [IsTrimmed, Option.all_eq_true, Bool.not_eq_true']
  exact ⟨fun c hc => h c (List.mem_of_mem_head? hc), fun c hc => h c (List.mem_of_getLast? hc)⟩

theorem dropWhile_isBlank (h : s.head?.all (!isBlank ·)) : s.dropWhile isBlank = s := by
  cases s with
  | nil => rfl
  | cons x s => exact List.dropWhile_cons_of_neg (by simpa using h)

theorem dropWhile_isBlank_append {pad : List Char} (hpad : ∀ x ∈ pad, isBlank x = true)
    (h : s.head?.all (!isBlank ·)) : (pad ++ s).dropWhile isBlank = s := by
  rw [List.dropWhile_append_of_pos hpad, dropWhile_isBlank h]

/-- Trimming takes the blanks behind a text and nothing else. -/
theorem trim_append (h : IsTrimmed s) {pad : List Char} (hpad : ∀ x ∈ pad, isBlank x = true) :
    trim (s ++ pad) = s := by
  cases s with
  | nil =>
    have hnil : pad.dropWhile isBlank = [] := List.dropWhile_eq_nil_iff.mpr hpad
    rw [List.nil_append, trim, trimStart, hnil]
    rfl
  | cons x s =>
    have hstart : trimStart (x :: s ++ pad) = x :: s ++ pad := dropWhile_isBlank h.1
    rw [trim, hstart, trimEnd, List.reverse_append, dropWhile_isBlank_append, List.reverse_reverse]
    · exact fun y hy => hpad y (List.mem_reverse.mp hy)
    · rw [List.head?_reverse]
      exact h.2

theorem trim_eq_self (h : IsTrimmed s) : trim s = s := by
  simpa using trim_append h (List.forall_mem_nil (isBlank · = true))

/-- `core` is what is left of a text without the blanks around it. -/
def IsCore (core s : List Char) : Prop :=
  IsTrimmed core ∧ ∃ lead trail, s = lead ++ core ++ trail ∧
    (∀ x ∈ lead, isBlank x = true) ∧ ∀ x ∈ trail, isBlank x = true

theorem isCore_trim (s : List Char) : IsCore (trim s) s := by
  have hstart : s = s.takeWhile isBlank ++ trimStart s := List.takeWhile_append_dropWhile.symm
  have hend : trimStart s =
      trim s ++ ((trimStart s).reverse.takeWhile isBlank).reverse := by
    rw [trim, trimEnd, ← List.reverse_append, List.takeWhile_append_dropWhile, List.reverse_reverse]
  have hfirst : (trim s).head?.all (!isBlank ·) := by
    have hhead := List.head?_dropWhile_not isBlank s
    rw [← trimStart, hend] at hhead
    cases htrim : trim s with
    | nil => rfl
    | cons x more =>
      rw [htrim] at hhead
      simpa using hhead
  have hlast : (trim s).getLast?.all (!isBlank ·) := by
    have hhead := List.head?_dropWhile_not isBlank (trimStart s).reverse
    rw [trim, trimEnd, List.getLast?_reverse]
    cases hrest : (trimStart s).reverse.dropWhile isBlank with
    | nil => rfl
    | cons x more =>
      rw [hrest] at hhead
      simpa using hhead
  refine ⟨⟨hfirst, hlast⟩, s.takeWhile isBlank, ((trimStart s).reverse.takeWhile isBlank).reverse,
    ?_, fun x hx => ?_, fun x hx => ?_⟩
  · rw [List.append_assoc, ← hend, ← hstart]
  · exact List.all_eq_true.mp List.all_takeWhile x hx
  · exact List.all_eq_true.mp List.all_takeWhile x (List.mem_reverse.mp hx)

/-- **Trimming leaves the core of a text.** -/
theorem trim_eq_iff {core : List Char} : trim s = core ↔ IsCore core s := by
  constructor
  · rintro rfl
    exact isCore_trim s
  · rintro ⟨hcore, lead, trail, rfl, hlead, htrail⟩
    have hskip : trim (lead ++ (core ++ trail)) = trim (core ++ trail) := by
      rw [trim, trimStart, List.dropWhile_append_of_pos hlead]
      rfl
    rw [List.append_assoc, hskip, trim_append hcore htrail]

end PipelineLint.Text
