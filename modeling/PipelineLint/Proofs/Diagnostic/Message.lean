import PipelineLint.Proofs.Diagnostic.Location

/-!
# What a message says

A message is read in two steps: its location is taken from its end, and the content that it echoes
is cut from what is left. The echoed content is a file that somebody wrote, and may hold anything,
the words around an echo among it. So an echo reaches as far as it can: to the last place where the
closing words stand.

## Main definitions

* `Diagnostic.IsEcho` — a text echoes a content
* `Diagnostic.Collapses` — a text without the content that it echoes

## Main results

* `Diagnostic.collapses_collapseEcho`, `Diagnostic.Collapses.unique` — what is cut
* `Diagnostic.ofMessage_eq` — the place and the text of every message
-/

namespace PipelineLint.Diagnostic

open Text

/-! ## The last occurrence of a word -/

section

variable {mark s : List Char}

theorem ne_of_afterLast? (hmark : mark ≠ []) (h : afterLast? mark s = none)
    (before rest : List Char) : s ≠ before ++ (mark ++ rest) := by
  induction s generalizing before with
  | nil => simp [hmark]
  | cons c s ih =>
    rw [afterLast?] at h
    split at h
    · cases h
    · next hlater =>
      cases before with
      | nil =>
        intro (heq : c :: s = mark ++ rest)
        rw [after?_eq_some_iff.mpr heq] at h
        cases h
      | cons b before =>
        intro heq
        exact ih hlater before (List.cons.inj heq).2

theorem exists_of_afterLast? (hmark : mark ≠ []) {rest : List Char}
    (h : afterLast? mark s = some rest) :
    ∃ before, s = before ++ (mark ++ rest) ∧
      ∀ before' rest', s = before' ++ (mark ++ rest') → before'.length ≤ before.length := by
  induction s with
  | nil => cases h
  | cons c s ih =>
    rw [afterLast?] at h
    split at h
    · next hlater =>
      cases h
      obtain ⟨before, hs, hlast⟩ := ih hlater
      refine ⟨c :: before, by rw [hs, List.cons_append], fun before' rest' heq => ?_⟩
      cases before' with
      | nil => exact Nat.zero_le _
      | cons b before' => exact Nat.succ_le_succ (hlast before' rest' (List.cons.inj heq).2)
    · next hnone =>
      have hs : c :: s = mark ++ rest := after?_eq_some_iff.mp h
      refine ⟨[], hs, fun before' rest' heq => ?_⟩
      cases before' with
      | nil => exact Nat.le_refl _
      | cons b before' =>
        exact absurd (List.cons.inj heq).2 (ne_of_afterLast? hmark hnone before' rest')

end

/-! ## Echoes -/

/-- `s` echoes a content, and goes on with `rest` behind it. -/
def IsEcho (s echoed rest : List Char) : Prop :=
  s = "Jenkinsfile content '".toList ++ (echoed ++ ("' did not".toList ++ rest)) ∧ echoed ≠ []

/-- `t` is `s` with the longest content that it echoes cut out. -/
inductive Collapses (s : List Char) : List Char → Prop
  | cut {echoed rest} (h : IsEcho s echoed rest)
      (hlast : ∀ echoed' rest', IsEcho s echoed' rest' → echoed'.length ≤ echoed.length) :
      Collapses s ("Jenkinsfile did not".toList ++ rest)
  | keep (h : ∀ echoed rest, ¬ IsEcho s echoed rest) : Collapses s s

theorem collapses_collapseEcho (s : List Char) : Collapses s (collapseEcho s) := by
  have hclosing : echoClosing ≠ [] := by decide
  rw [collapseEcho]
  split
  · next c content hopening =>
    obtain rfl := after?_eq_some_iff.mp hopening
    split
    · next rest hlast =>
      obtain ⟨before, rfl, hlast⟩ := exists_of_afterLast? hclosing hlast
      have hecho : IsEcho _ (c :: before) rest := ⟨rfl, by simp⟩
      refine .cut hecho fun echoed' rest' ⟨heq, hne⟩ => ?_
      obtain ⟨c', before', rfl⟩ := List.exists_cons_of_ne_nil hne
      have htail := (List.cons.inj (List.append_cancel_left heq)).2
      exact Nat.succ_le_succ (hlast before' rest' htail)
    · next hnone =>
      refine .keep fun echoed rest ⟨heq, hne⟩ => ?_
      obtain ⟨c', before, rfl⟩ := List.exists_cons_of_ne_nil hne
      have htail := (List.cons.inj (List.append_cancel_left heq)).2
      exact ne_of_afterLast? hclosing hnone before rest htail
  · next hopening =>
    refine .keep fun echoed rest ⟨heq, hne⟩ => ?_
    obtain ⟨c, before, rfl⟩ := List.exists_cons_of_ne_nil hne
    exact hopening c _ (after?_eq_some_iff.mpr heq)

theorem Collapses.unique {s t t' : List Char} (h : Collapses s t) (h' : Collapses s t') :
    t = t' := by
  cases h with
  | cut h hlast =>
    cases h' with
    | cut h' hlast' =>
      have hlength := Nat.le_antisymm (hlast' _ _ h) (hlast _ _ h')
      have heq := List.append_cancel_left (h.1.symm.trans h'.1)
      have hrest := List.append_cancel_left (List.append_inj heq hlength).2
      rw [hrest]
    | keep h' => exact absurd h (h' _ _)
  | keep h =>
    cases h' with
    | cut h' _ => exact absurd h' (h _ _)
    | keep _ => rfl

theorem Collapses.eq_self {s t : List Char} (h : Collapses s t)
    (hs : ¬ "Jenkinsfile content '".toList <+: s) : t = s := by
  cases h with
  | cut h _ => exact absurd ⟨_, h.1.symm⟩ hs
  | keep _ => rfl

/-! ## Messages -/

/-- **The place and the text of a message.** -/
theorem ofMessage_eq (severity raw : String) :
    ∃ located text, Places raw.toList located ∧
      (∀ other, Places raw.toList other → other = located) ∧
      Collapses located.text text ∧ (∀ other, Collapses located.text other → other = text) ∧
      (¬ "Jenkinsfile content '".toList <+: located.text → text = located.text) ∧
      ofMessage severity raw = ⟨located.line, located.column, severity, String.ofList text⟩ := by
  have hplace := places_ofMessage raw.toList
  have hcollapse := collapses_collapseEcho (Located.ofMessage raw.toList).text
  exact ⟨_, _, hplace, fun other hother => hother.unique hplace, hcollapse,
    fun other hother => hother.unique hcollapse, hcollapse.eq_self, rfl⟩

end PipelineLint.Diagnostic
