import Mathlib.Data.List.TakeWhile
import PipelineLint.Ini
import PipelineLint.Proofs.Text.Runs

/-!
# How profile documents are read

A document is read in steps, each of which takes at least one character, so the length of what is
left bounds the steps that are still to come. What the parts of a step do is said here once: where
reading a name, a key or a value stops, and what is passed over behind it.

## Backslashes

Reading goes by pairs wherever there is a backslash: it binds the next character, which may be a
backslash, too. So whether the character behind a text is bound depends on the number of backslashes
that the text ends in, and on nothing before them.

## Main definitions

* `Ini.binds` — a text binds the character behind it
* `Ini.Reads` — reading on from a place gives a draft
* `Ini.Draft.Grows` — more was read, and every section that was started has a name

## Main results

* `Ini.readUntil_append` — a text without ends is read as a whole
* `Ini.skipBlanks_append` — what is passed over
* `Ini.Reads.step` — one step more
* `Ini.exists_of_parse` — the sections of a document, of which the first has no name
-/

namespace PipelineLint

namespace Ini

open Text

/-! ## Backslashes -/

/-- A text binds the character behind it: it ends in an odd number of backslashes. -/
def binds (s : List Char) : Bool := (s.reverse.takeWhile (· == '\\')).length % 2 == 1

theorem binds_cons_of_ne {x : Char} (hx : x ≠ '\\') (s : List Char) :
    binds (x :: s) = binds s := by
  have hnone : [x].takeWhile (· == '\\') = [] := by simp [hx]
  rw [binds, binds, List.reverse_cons, List.takeWhile_append, hnone, List.append_nil]
  split
  · next hall => rw [hall]
  · rfl

/-- A bound character does not bind. -/
theorem binds_cons_cons (x : Char) (s : List Char) : binds ('\\' :: x :: s) = binds s := by
  have heven : ([x, '\\'].takeWhile (· == '\\')).length % 2 = 0 := by
    by_cases hx : x = '\\'
    · subst hx
      rfl
    · simp [hx]
  rw [binds, binds, List.reverse_cons, List.reverse_cons, List.append_assoc,
    List.singleton_append, List.takeWhile_append]
  split
  · next hall =>
    rw [List.length_append, ← hall]
    congr 1
    omega
  · rfl

theorem binds_of_not_mem {s : List Char} (hs : '\\' ∉ s) : binds s = false := by
  have hnone : s.reverse.takeWhile (· == '\\') = [] := by
    cases h : s.reverse with
    | nil => rfl
    | cons x t =>
      have hx : x ∈ s := List.mem_reverse.mp (h ▸ List.mem_cons_self)
      refine List.takeWhile_cons_of_neg fun heq => hs ?_
      rwa [← beq_iff_eq.mp heq]
  rw [binds, hnone]
  rfl

/-- A text that binds ends in a backslash that nothing binds. -/
theorem exists_of_binds {s : List Char} (h : binds s = true) :
    ∃ t, s = t ++ ['\\'] ∧ binds t = false := by
  cases hs : s.reverse with
  | nil =>
    rw [binds, hs] at h
    cases h
  | cons x t =>
    rw [binds, hs] at h
    obtain rfl : x = '\\' := by
      by_contra hx
      simp [hx] at h
    refine ⟨t.reverse, ?_, ?_⟩
    · rw [← List.reverse_cons, ← hs, List.reverse_reverse]
    · rw [List.takeWhile_cons_of_pos rfl, List.length_cons, beq_iff_eq] at h
      rw [binds, List.reverse_reverse, beq_eq_false_iff_ne]
      omega

/-! ## Names, keys and values -/

/-- **A text without ends is read as a whole**, unless it binds what is behind it. -/
theorem readUntil_append (stop : Char → Bool) (before : List Char) {s : List Char}
    (hstop : ∀ x ∈ s, stop x = false) (hbreak : '\n' ∉ s) (hbinds : binds s = false)
    (rest : List Char) :
    Cursor.readUntil stop before (s ++ rest) =
      (s ++ (Cursor.readUntil stop (s.reverse ++ before) rest).1,
        (Cursor.readUntil stop (s.reverse ++ before) rest).2) := by
  fun_induction Cursor.readUntil stop before s with
  | case1 before => rfl
  | case2 before s ih => simp at hbreak
  | case3 before x s hx text c hread ih =>
    rw [binds_cons_cons] at hbinds
    have hmore := ih (fun y hy => hstop y (by simp [hy])) (by simp_all) hbinds
    rw [List.cons_append, List.cons_append, Cursor.readUntil, hmore]
    · simp
    · exact hx
  | case4 before x s hx hx' hend => simp [hstop x] at hend
  | case5 before x s hx hx' hend text c hread ih =>
    -- A backslash at the end of the text is the only one that is read on its own.
    have hne : x ≠ '\\' := by
      rintro rfl
      cases s with
      | nil => cases hbinds
      | cons y s => exact hx' y s rfl rfl
    rw [binds_cons_of_ne hne] at hbinds
    have hmore := ih (fun y hy => hstop y (by simp [hy])) (by simp_all) hbinds
    rw [List.cons_append, Cursor.readUntil, hmore]
    · simp [hend]
    · exact fun _ h => absurd h hne
    · exact fun _ _ h => absurd h hne

theorem readUntil_of_stop {stop : Char → Bool} {x : Char} (hx : stop x = true) (hne : x ≠ '\\')
    (before rest : List Char) :
    Cursor.readUntil stop before (x :: rest) = ([], ⟨before, x :: rest⟩) := by
  rw [Cursor.readUntil, if_pos hx]
  · exact fun _ h => absurd h hne
  · exact fun _ _ h => absurd h hne

/-- A text is read up to its end. -/
theorem readUntil_append_stop {stop : Char → Bool} (before : List Char) {s : List Char}
    (hstop : ∀ x ∈ s, stop x = false) (hbreak : '\n' ∉ s) (hbinds : binds s = false) {x : Char}
    (hx : stop x = true) (hne : x ≠ '\\') (rest : List Char) :
    Cursor.readUntil stop before (s ++ x :: rest) = (s, ⟨s.reverse ++ before, x :: rest⟩) := by
  rw [readUntil_append stop before hstop hbreak hbinds, readUntil_of_stop hx hne, List.append_nil]

theorem skipWhile_append {p : Char → Bool} {s : List Char} (hs : ∀ x ∈ s, p x = true)
    {rest : List Char} (hrest : rest.head?.all (!p ·)) (before : List Char) :
    Cursor.skipWhile p ⟨before, s ++ rest⟩ = ⟨s.reverse ++ before, rest⟩ := by
  have hnone : rest.takeWhile p = [] ∧ rest.dropWhile p = rest := by
    cases rest with
    | nil => exact ⟨rfl, rfl⟩
    | cons x rest =>
      have hx : ¬ p x = true := by simpa using hrest
      exact ⟨List.takeWhile_cons_of_neg hx, List.dropWhile_cons_of_neg hx⟩
  rw [Cursor.skipWhile]
  simp only [List.takeWhile_append_of_pos hs, List.dropWhile_append_of_pos hs, hnone,
    List.append_nil]

/-! ## Blanks -/

theorem isIndent_iff {x : Char} : isIndent x = true ↔ x = ' ' ∨ x = '\t' := by
  rw [isIndent, Bool.or_eq_true, beq_iff_eq, beq_iff_eq]

theorem isLineEnd_iff {x : Char} : isLineEnd x = true ↔ x = '\n' ∨ x = '\r' := by
  rw [isLineEnd, Bool.or_eq_true, beq_iff_eq, beq_iff_eq]

theorem isSeparator_iff {x : Char} : isSeparator x = true ↔ x = '=' ∨ x = ':' := by
  rw [isSeparator, Bool.or_eq_true, beq_iff_eq, beq_iff_eq]

theorem isBlank_of_isIndent {x : Char} (hx : isIndent x = true) : isBlank x = true := by
  rcases isIndent_iff.mp hx with rfl | rfl <;> rfl

theorem isLineEnd_of_isIndent {x : Char} (hx : isIndent x = true) : isLineEnd x = false := by
  rcases isIndent_iff.mp hx with rfl | rfl <;> rfl

theorem isBlank_of_isLineEnd {x : Char} (hx : isLineEnd x = true) : isBlank x = true := by
  rcases isLineEnd_iff.mp hx with rfl | rfl <;> rfl

theorem isBlank_of_isSeparator {x : Char} (hx : isSeparator x = true) : isBlank x = false := by
  rcases isSeparator_iff.mp hx with rfl | rfl <;> rfl

theorem length_rest_skipBlanks (before s : List Char) :
    (Cursor.skipBlanks before s).rest.length ≤ s.length := by
  fun_induction Cursor.skipBlanks before s with
  | case1 before => exact Nat.le_refl _
  | case2 before x s hx => exact Nat.le_refl _
  | case3 before x s hx hend => exact Nat.le_succ _
  | case4 before x s hx hend ih => exact Nat.le_succ_of_le ih

theorem skipBlanks_of_not_isBlank {x : Char} (hx : isBlank x = false) (before s : List Char) :
    Cursor.skipBlanks before (x :: s) = ⟨before, x :: s⟩ := by
  rw [Cursor.skipBlanks, hx]
  rfl

/-- Blanks within a line are passed over. -/
theorem skipBlanks_append {pad : List Char} (hpad : ∀ x ∈ pad, isIndent x = true)
    (before rest : List Char) :
    Cursor.skipBlanks before (pad ++ rest) = Cursor.skipBlanks (pad.reverse ++ before) rest := by
  induction pad generalizing before with
  | nil => rfl
  | cons x pad ih =>
    have hx := hpad x List.mem_cons_self
    have hline := isLineEnd_of_isIndent hx
    rw [isLineEnd] at hline
    rw [List.cons_append, Cursor.skipBlanks, isBlank_of_isIndent hx, hline, Bool.false_and,
      ih (fun y hy => hpad y (List.mem_cons_of_mem _ hy))]
    simp

/-! ## Steps -/

/-- Reading on from a place gives a draft. -/
def Reads (d : Draft) (c : Cursor) (d' : Draft) : Prop :=
  ∀ fuel, c.rest.length ≤ fuel → readAll fuel d c = .ok d'

/-- At the end nothing is read. -/
theorem reads_end (d : Draft) (before : List Char) : Reads d ⟨before, []⟩ d := by
  intro fuel _
  cases fuel <;> rfl

/-- **One step more.** -/
theorem Reads.step {d d₁ d' : Draft} {c c₁ : Cursor} (hstep : step d c = .ok (d₁, c₁))
    (hless : c₁.rest.length < c.rest.length) (hmore : Reads d₁ c₁ d') : Reads d c d' := by
  intro fuel hfuel
  cases fuel with
  | zero => omega
  | succ fuel =>
    have hrest : c.rest.isEmpty = false := by
      cases h : c.rest with
      | nil => simp [h] at hless
      | cons x rest => rfl
    rw [readAll, hrest, hstep]
    exact hmore fuel (by omega)

/-! ## Which sections have a name -/

/-- A draft has the sections of an earlier one, perhaps with more entries, and then sections with
names. -/
def Draft.Grows (d d' : Draft) : Prop :=
  ∃ names : List String,
    d'.sections.map (·.name) = d.sections.map (·.name) ++ names.map some

theorem Draft.Grows.refl (d : Draft) : d.Grows d := ⟨[], by simp⟩

theorem Draft.Grows.trans {d₁ d₂ d₃ : Draft} (h : d₁.Grows d₂) (h' : d₂.Grows d₃) :
    d₁.Grows d₃ := by
  obtain ⟨names, hnames⟩ := h
  obtain ⟨names', hnames'⟩ := h'
  exact ⟨names ++ names', by rw [hnames', hnames, List.append_assoc, List.map_append]⟩

theorem Draft.grows_open (d : Draft) (name : List Char) : d.Grows (d.open name) :=
  ⟨[String.ofList name], by simp [Draft.open, Draft.sections]⟩

theorem Draft.grows_add (d : Draft) (value : List Char) : d.Grows (d.add value) :=
  ⟨[], by simp [Draft.add, Draft.sections]⟩

theorem Draft.grows_key (d : Draft) (key : List Char) : d.Grows { d with key } := ⟨[], by
  simp [Draft.sections]⟩

/-- A header starts a section of its name. -/
theorem grows_readHeader {d : Draft} {c : Cursor} {r : Draft × Cursor}
    (h : (readHeader d c).map (fun (d, c) => (d, settle c)) = .ok r) : d.Grows r.1 := by
  rw [readHeader] at h
  dsimp only at h
  split at h
  · cases h
  · cases h
    exact d.grows_open _

/-- **A step starts no section but one with a name.** -/
theorem grows_step {d : Draft} {c : Cursor} {r : Draft × Cursor} (h : step d c = .ok r) :
    d.Grows r.1 := by
  rw [Ini.step] at h
  split at h
  · cases h
    exact .refl d
  · split at h
    · split at h
      · cases h
        exact .refl d
      · cases h
    · split at h
      · exact grows_readHeader h
      · split at h
        · split at h
          · cases h
          · cases h
            exact d.grows_add _
        · split at h
          · dsimp only at h
            split at h
            · exact grows_readHeader h
            · split at h
              · cases h
                exact .refl d
              · cases h
                dsimp only
                split
                · exact .refl d
                · exact d.grows_key _
            · cases h
              exact .refl d
          · split at h
            · cases h
              exact .refl d
            · dsimp only at h
              split at h
              · cases h
              · cases h
                exact d.grows_key _

theorem grows_readAll {fuel : Nat} {d d' : Draft} {c : Cursor} (h : readAll fuel d c = .ok d') :
    d.Grows d' := by
  induction fuel generalizing d c with
  | zero =>
    cases h
    exact .refl _
  | succ fuel ih =>
    rw [readAll] at h
    split at h
    · cases h
      exact .refl _
    · split at h
      · next d₁ c₁ hstep => exact (grows_step hstep).trans (ih h)
      · cases h

/-- **Only the first section of a document has no name.** Its entries are those before the first
header. -/
theorem exists_of_parse {text : String} {sections : List Section} (h : parse text = .ok sections) :
    ∃ entries named, sections = ⟨none, entries⟩ :: named ∧ ∀ s ∈ named, s.name ≠ none := by
  rw [parse] at h
  cases hread : readAll text.toList.length {} ⟨[], text.toList⟩ with
  | error e =>
    rw [hread] at h
    cases h
  | ok d =>
    rw [hread] at h
    cases h
    obtain ⟨names, hgrown⟩ := grows_readAll hread
    have hnames : d.sections.map (·.name) = none :: names.map some := hgrown
    cases hsections : d.sections with
    | nil => simp [hsections] at hnames
    | cons first named =>
      obtain ⟨name, entries⟩ := first
      obtain ⟨rfl, hnamed⟩ : name = none ∧ named.map (·.name) = names.map some := by
        simpa [hsections] using hnames
      refine ⟨entries, named, rfl, fun s hs hnone => ?_⟩
      have hmem : s.name ∈ names.map some := hnamed ▸ List.mem_map_of_mem hs
      simp [hnone] at hmem

theorem parse_of_reads {text : String} {d : Draft} (h : Reads {} ⟨[], text.toList⟩ d) :
    parse text = .ok d.sections := by
  rw [parse, h _ (Nat.le_refl _)]
  rfl

end Ini

end PipelineLint
