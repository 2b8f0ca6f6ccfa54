import Mathlib.Order.Bounds.Defs
import PipelineLint.Diagnostic
import PipelineLint.Proofs.Text.Runs

/-!
# Where a message says that it belongs

The place of a message is read from its end, and nothing but the whole of an ending is a location.
So the form of a location is stated for a text as a whole, and which ending of a message is taken is
a matter of position: the first from which the rest of the message is a location.

## Why the first position

A location may begin with a colon and blanks, all of them optional, so that several endings of one
message are locations. The longest of them leaves nothing of the location behind. Two endings that
name different places do not occur beside each other, because an ending determines its numerals; but
a message may well hold the words of a location in its middle, and only its end counts.

## Main definitions

* `Diagnostic.IsLocation` — a text is a location throughout, with its two numerals
* `Diagnostic.locations` — the positions of a message from which the rest is a location
* `Diagnostic.position` — the position that a numeral names, or 1
* `Diagnostic.Places` — a message without its location, and its place

## Main results

* `Diagnostic.IsLocation.unique` — a location has one pair of numerals
* `Diagnostic.suffixNumerals?_eq_some_iff`, `Diagnostic.isLeast_of_locate?` — what is found
* `Diagnostic.places_ofMessage`, `Diagnostic.Places.unique` — every message has exactly one place
-/

namespace PipelineLint.Diagnostic

open Text

/-! ## Classes of characters -/

/-- The code points of the blanks. -/
def blankCodes : List Nat :=
  [0x9, 0xA, 0xB, 0xC, 0xD, 0x20, 0x85, 0xA0, 0x1680, 0x2000, 0x2001, 0x2002, 0x2003, 0x2004,
   0x2005, 0x2006, 0x2007, 0x2008, 0x2009, 0x200A, 0x2028, 0x2029, 0x202F, 0x205F, 0x3000]

theorem toNat_mem_blankCodes {c : Char} (h : isBlank c = true) : c.toNat ∈ blankCodes := by
  simp only [isBlank, Bool.or_eq_true, Bool.and_eq_true, decide_eq_true_eq, beq_iff_eq] at h
  simp only [blankCodes, List.mem_cons, List.not_mem_nil, or_false]
  omega

/-- No row of digits holds a blank. -/
theorem isBlank_eq_false_of_isDecimalDigit {c : Char} (h : isDecimalDigit c = true) :
    isBlank c = false := by
  have hrows : ∀ first ∈ decimalZeros, ∀ n ∈ blankCodes, n < first ∨ first + 10 ≤ n := by decide
  obtain ⟨first, hfirst, hrow⟩ := List.any_eq_true.mp h
  simp only [Bool.and_eq_true, decide_eq_true_eq] at hrow
  refine Bool.eq_false_iff.mpr fun hblank => ?_
  have := hrows first hfirst c.toNat (toNat_mem_blankCodes hblank)
  omega

section

variable {p : Char → Bool} {run word : List Char}

/-- A run of a class ends at a word that starts outside the class. -/
theorem takeWhile_run (hrun : ∀ c ∈ run, p c = true) (hword : word.head?.any (!p ·) = true)
    (rest : List Char) : (run ++ (word ++ rest)).takeWhile p = run := by
  cases word with
  | nil => cases hword
  | cons c word =>
    have hc : ¬ p c = true := by simpa using hword
    rw [List.takeWhile_append_of_pos hrun, List.cons_append, List.takeWhile_cons_of_neg hc,
      List.append_nil]

theorem dropWhile_run (hrun : ∀ c ∈ run, p c = true) (hword : word.head?.any (!p ·) = true)
    (rest : List Char) : (run ++ (word ++ rest)).dropWhile p = word ++ rest := by
  cases word with
  | nil => cases hword
  | cons c word =>
    have hc : ¬ p c = true := by simpa using hword
    rw [List.dropWhile_append_of_pos hrun, List.cons_append, List.dropWhile_cons_of_neg hc]

theorem mem_takeWhile (s : List Char) : ∀ c ∈ s.takeWhile p, p c = true :=
  fun c hc => List.all_eq_true.mp List.all_takeWhile c hc

end

/-! ## Positions -/

/-- The position that decimal digits name: the number that they denote when they are digits of ASCII
and it is at least 1 and fits 32 bits, and else 1. -/
def position (digits : List Char) : Nat :=
  let n := Nat.ofDigits 10 (digits.reverse.map fun c => c.toNat - '0'.toNat)
  if digits.all (fun c => '0'.toNat ≤ c.toNat && c.toNat ≤ '9'.toNat) ∧ 1 ≤ n ∧ n ≤ 4294967295 then
    n
  else 1

theorem positionOf_eq_position (digits : List Char) : positionOf digits = position digits := by
  have hascii : digits.all Char.isDigit = true ↔
      digits.all (fun c => '0'.toNat ≤ c.toNat && c.toNat ≤ '9'.toNat) = true := by
    simp only [List.all_eq_true, Char.isDigit, Bool.and_eq_true, decide_eq_true_eq]
    rfl
  have hbound : digitsValue digits < positionBound ↔ digitsValue digits ≤ 4294967295 := by
    rw [positionBound]
    omega
  cases digits with
  | nil => simp [positionOf, position, numeral?]
  | cons d digits =>
    simp only [positionOf, position, numeral?, ← digitsValue_eq_ofDigits, ← hascii,
      List.isEmpty_cons, Bool.not_false, Bool.true_and]
    by_cases h : (d :: digits).all Char.isDigit = true
    · simp [h, hbound]
    · simp [h]

/-! ## Locations -/

/-- `s` as a whole is a location with the given numerals. -/
inductive IsLocation : List Char → List Char → List Char → Prop
  | mk {colon before after line column newline}
      (hcolon : colon ∈ [[], [':']]) (hbefore : ∀ c ∈ before, isBlank c = true)
      (hafter : ∀ c ∈ after, isBlank c = true)
      (hline : line ≠ [] ∧ ∀ c ∈ line, isDecimalDigit c = true)
      (hcolumn : column ≠ [] ∧ ∀ c ∈ column, isDecimalDigit c = true)
      (hnewline : newline ∈ [[], ['\n']]) :
      IsLocation (colon ++ (before ++ ("@ line".toList ++ (after ++ (line ++ (", column ".toList ++
        (column ++ (".".toList ++ newline)))))))) line column

theorem exists_eq_dropColon (s : List Char) : ∃ colon ∈ [[], [':']], s = colon ++ dropColon s := by
  unfold dropColon
  split
  · exact ⟨[':'], by simp, rfl⟩
  · exact ⟨[], by simp, rfl⟩

theorem dropColon_append {colon s : List Char} (hcolon : colon ∈ [[], [':']])
    (hs : s.head? ≠ some ':') : dropColon (colon ++ s) = s := by
  simp only [List.mem_cons, List.not_mem_nil, or_false] at hcolon
  rcases hcolon with rfl | rfl
  · cases s with
    | nil => rfl
    | cons c s =>
      have hc : c ≠ ':' := by simpa using hs
      simp [dropColon, hc]
  · rfl

/-- **The numerals of a location.** -/
theorem suffixNumerals?_eq_some_iff {s line column : List Char} :
    suffixNumerals? s = some (line, column) ↔ IsLocation s line column := by
  constructor
  · intro h
    simp only [suffixNumerals?, bind, Option.bind_eq_some_iff, after?_eq_some_iff] at h
    obtain ⟨s₁, h₁, s₂, h₂, s₃, h₃, h⟩ := h
    split at h
    · next hends =>
      obtain ⟨hline, hcolumn, hnewline⟩ := hends
      cases h
      obtain ⟨colon, hcolon, hs⟩ := exists_eq_dropColon s
      have hending : s₃ ∈ [[], ['\n']] := by simpa using hnewline
      have hspelled := IsLocation.mk hcolon (mem_takeWhile (p := isBlank) (dropColon s))
        (mem_takeWhile (p := isBlank) s₁) ⟨hline, mem_takeWhile _⟩ ⟨hcolumn, mem_takeWhile _⟩
        hending
      rwa [← h₃, List.takeWhile_append_dropWhile, ← h₂, List.takeWhile_append_dropWhile,
        List.takeWhile_append_dropWhile, ← h₁, List.takeWhile_append_dropWhile, ← hs] at hspelled
    · cases h
  · rintro ⟨hcolon, hbefore, hafter, ⟨hline, hlines⟩, ⟨hcolumn, hcolumns⟩, hnewline⟩
    have hnocolon {before rest : List Char} (hbefore : ∀ c ∈ before, isBlank c = true) :
        (before ++ ("@ line".toList ++ rest)).head? ≠ some ':' := by
      cases before with
      | nil => simp
      | cons b before =>
        intro h
        obtain rfl : b = ':' := by simpa using h
        exact absurd (hbefore ':' List.mem_cons_self) (by decide)
    have hstart : line.head?.any (!isBlank ·) = true := by
      obtain ⟨d, line, rfl⟩ := List.exists_cons_of_ne_nil hline
      simpa using isBlank_eq_false_of_isDecimalDigit (hlines d List.mem_cons_self)
    have hcomma : ", column ".toList.head?.any (!isDecimalDigit ·) = true := by decide
    have hperiod : ".".toList.head?.any (!isDecimalDigit ·) = true := by decide
    rw [suffixNumerals?, dropColon_append hcolon (hnocolon hbefore),
      dropWhile_run hbefore (by decide), after?_append]
    simp only [bind, Option.bind, dropWhile_run hafter hstart, takeWhile_run hlines hcomma,
      dropWhile_run hlines hcomma, after?_append, takeWhile_run hcolumns hperiod,
      dropWhile_run hcolumns hperiod]
    rw [if_pos ⟨hline, hcolumn, by simpa using hnewline⟩]

theorem suffixNumerals?_eq_none_iff {s : List Char} :
    suffixNumerals? s = none ↔ ¬ ∃ line column, IsLocation s line column := by
  simp only [Option.eq_none_iff_forall_ne_some, Prod.forall, ne_eq, suffixNumerals?_eq_some_iff,
    not_exists]

/-- **A location names one place.** -/
theorem IsLocation.unique {s line column line' column' : List Char} (h : IsLocation s line column)
    (h' : IsLocation s line' column') : line = line' ∧ column = column' := by
  have heq := (suffixNumerals?_eq_some_iff.mpr h).symm.trans (suffixNumerals?_eq_some_iff.mpr h')
  simpa using heq

/-- The positions of `raw` from which the rest is a location. -/
def locations (raw : List Char) : Set Nat :=
  {p | ∃ line column, IsLocation (raw.drop p) line column}

theorem succ_mem_locations {c : Char} {s : List Char} {p : Nat} :
    p + 1 ∈ locations (c :: s) ↔ p ∈ locations s :=
  Iff.rfl

theorem isLeast_zero {s line column : List Char} (h : IsLocation s line column) :
    IsLeast (locations s) 0 :=
  ⟨⟨line, column, h⟩, fun _ _ => Nat.zero_le _⟩

/-- A text that is no location itself has the locations of what follows its first character. -/
theorem isLeast_cons_iff {c : Char} {s : List Char} {p : Nat}
    (h : ¬ ∃ line column, IsLocation (c :: s) line column) :
    IsLeast (locations (c :: s)) (p + 1) ↔ IsLeast (locations s) p := by
  refine and_congr succ_mem_locations ⟨fun hleast q hq => ?_, fun hleast q hq => ?_⟩
  · exact Nat.le_of_succ_le_succ (hleast (succ_mem_locations.mpr hq))
  · cases q with
    | zero => exact absurd hq h
    | succ q => exact Nat.succ_le_succ (hleast hq)

theorem locations_nil : locations [] = ∅ := by
  refine Set.eq_empty_of_forall_notMem fun p ⟨line, column, h⟩ => ?_
  rw [List.drop_nil] at h
  exact suffixNumerals?_eq_none_iff.mp rfl ⟨line, column, h⟩

theorem locations_cons_eq_empty {c : Char} {s : List Char}
    (h : ¬ ∃ line column, IsLocation (c :: s) line column) (hs : locations s = ∅) :
    locations (c :: s) = ∅ := by
  refine Set.eq_empty_of_forall_notMem fun p hp => ?_
  cases p with
  | zero => exact h hp
  | succ p => exact Set.eq_empty_iff_forall_notMem.mp hs p (succ_mem_locations.mp hp)

theorem locate?_of_suffixNumerals? {s line column : List Char}
    (h : suffixNumerals? s = some (line, column)) : locate? s = some ([], line, column) := by
  rw [locate?.eq_def, h]

theorem locate?_cons {c : Char} {s : List Char} (h : suffixNumerals? (c :: s) = none) :
    locate? (c :: s) = (locate? s).map fun (before, numerals) => (c :: before, numerals) := by
  rw [locate?.eq_def, h]

/-- **The location that is taken starts at the first position there is.** -/
theorem isLeast_of_locate? {s text line column : List Char}
    (h : locate? s = some (text, line, column)) :
    ∃ p, IsLeast (locations s) p ∧ text = s.take p ∧ IsLocation (s.drop p) line column := by
  induction s generalizing text with
  | nil => cases h
  | cons c s ih =>
    cases hwhole : suffixNumerals? (c :: s) with
    | some numerals =>
      obtain ⟨line', column'⟩ := numerals
      rw [locate?_of_suffixNumerals? hwhole] at h
      cases h
      have hlocation := suffixNumerals?_eq_some_iff.mp hwhole
      exact ⟨0, isLeast_zero hlocation, rfl, hlocation⟩
    | none =>
      rw [locate?_cons hwhole] at h
      obtain ⟨⟨before, line', column'⟩, hs, heq⟩ := Option.map_eq_some_iff.mp h
      cases heq
      obtain ⟨p, hp, rfl, hlocation⟩ := ih hs
      exact ⟨p + 1, (isLeast_cons_iff (suffixNumerals?_eq_none_iff.mp hwhole)).mpr hp, rfl,
        hlocation⟩

theorem locations_eq_empty_of_locate? {s : List Char} (h : locate? s = none) :
    locations s = ∅ := by
  induction s with
  | nil => exact locations_nil
  | cons c s ih =>
    cases hwhole : suffixNumerals? (c :: s) with
    | some numerals =>
      obtain ⟨line, column⟩ := numerals
      rw [locate?_of_suffixNumerals? hwhole] at h
      cases h
    | none =>
      rw [locate?_cons hwhole] at h
      exact locations_cons_eq_empty (suffixNumerals?_eq_none_iff.mp hwhole)
        (ih (Option.map_eq_none_iff.mp h))

/-! ## Messages -/

/-- `kept` is `raw` without a newline at its end, if there is one; only one is taken. -/
def LosesNewline (raw kept : List Char) : Prop :=
  raw = kept ++ ['\n'] ∨ raw = kept ∧ ¬ ['\n'] <:+ raw

theorem losesNewline_dropFinalNewline (s : List Char) : LosesNewline s (dropFinalNewline s) := by
  rw [dropFinalNewline]
  by_cases h : s.getLast? = some '\n'
  · rw [if_pos (beq_iff_eq.mpr h)]
    obtain ⟨kept, rfl⟩ := List.getLast?_eq_some_iff.mp h
    exact .inl (by rw [List.dropLast_concat])
  · rw [if_neg (by simpa using h)]
    refine .inr ⟨rfl, ?_⟩
    rintro ⟨kept, rfl⟩
    exact h List.getLast?_concat

theorem LosesNewline.unique {raw kept kept' : List Char} (h : LosesNewline raw kept)
    (h' : LosesNewline raw kept') : kept = kept' := by
  rcases h with rfl | ⟨rfl, hno⟩
  · rcases h' with h' | ⟨-, hno'⟩
    · exact List.append_cancel_right h'
    · exact absurd (List.suffix_append _ _) hno'
  · rcases h' with rfl | ⟨h', -⟩
    · exact absurd (List.suffix_append _ _) hno
    · exact h'

/-- What is left of a message without its location, and the place that the location names. A message
without one is placed at the start of the file, and loses a newline at its end and nothing else. -/
inductive Places (raw : List Char) : Located → Prop
  | located {p line column} (hp : IsLeast (locations raw) p)
      (h : IsLocation (raw.drop p) line column) :
      Places raw ⟨position line, position column, raw.take p⟩
  | bare {kept} (h : locations raw = ∅) (hkept : LosesNewline raw kept) : Places raw ⟨1, 1, kept⟩

/-- **Every message has a place.** -/
theorem places_ofMessage (raw : List Char) : Places raw (Located.ofMessage raw) := by
  rw [Located.ofMessage]
  split
  · next text line column h =>
    obtain ⟨p, hp, rfl, hlocation⟩ := isLeast_of_locate? h
    rw [positionOf_eq_position, positionOf_eq_position]
    exact .located hp hlocation
  · next h =>
    exact .bare (locations_eq_empty_of_locate? h) (losesNewline_dropFinalNewline raw)

/-- Only the end of a message is a location, and a line number of zero counts for nothing. -/
example : Located.ofMessage "a: @ line 9, column 9.: @ line 0, column 7.\n".toList =
    ⟨1, 7, "a: @ line 9, column 9.".toList⟩ := by
  rfl

/-- **No message has two places.** -/
theorem Places.unique {raw : List Char} {a b : Located} (ha : Places raw a) (hb : Places raw b) :
    a = b := by
  have hnot {p : Nat} (hp : IsLeast (locations raw) p) : locations raw ≠ ∅ :=
    Set.nonempty_iff_ne_empty.mp ⟨p, hp.1⟩
  cases ha with
  | located hp h =>
    cases hb with
    | located hp' h' =>
      obtain rfl := hp.unique hp'
      obtain ⟨rfl, rfl⟩ := h.unique h'
      rfl
    | bare hnone _ => exact absurd hnone (hnot hp)
  | bare hnone hkept =>
    cases hb with
    | located hp _ => exact absurd hnone (hnot hp)
    | bare _ hkept' => rw [hkept.unique hkept']

end PipelineLint.Diagnostic
