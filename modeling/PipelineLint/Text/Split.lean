/-!
# Splitting

A text is split at every character of a class. The main statements say that there is always one part
more than there are such characters, and that none of them stands in a part. A text may also be cut
in two at the first place where a character stands, if there is one.

## Main definitions

* `Text.splitAt` — the parts of a text between the characters of a class
* `Text.cut?` — the parts of a text before and behind a character
-/

namespace PipelineLint.Text

/-- The parts of `s` between the characters for which `separates` holds. -/
def splitAt (separates : Char → Bool) : List Char → List (List Char)
  | [] => [[]]
  | c :: s =>
    if separates c then [] :: splitAt separates s
    else
      match splitAt separates s with
      | [] => [[c]]
      | part :: more => (c :: part) :: more

theorem length_splitAt (separates : Char → Bool) (s : List Char) :
    (splitAt separates s).length = s.countP separates + 1 := by
  induction s with
  | nil => rfl
  | cons c s ih =>
    rw [splitAt]
    split
    next h => simp [h, ih]
    next h =>
      split
      next h' => simp [h'] at ih
      next part more h' =>
        rw [h'] at ih
        simpa [h] using ih

theorem separates_eq_false {separates : Char → Bool} {s part : List Char} {c : Char}
    (hpart : part ∈ splitAt separates s) (hc : c ∈ part) : separates c = false := by
  induction s generalizing part with
  | nil =>
    obtain rfl : part = [] := by simpa [splitAt] using hpart
    cases hc
  | cons d s ih =>
    rw [splitAt] at hpart
    split at hpart
    next h =>
      rcases List.mem_cons.1 hpart with rfl | hpart
      · cases hc
      · exact ih hpart hc
    next h =>
      split at hpart
      next h' =>
        obtain rfl : part = [d] := by simpa using hpart
        obtain rfl : c = d := by simpa using hc
        simpa using h
      next first more h' =>
        rcases List.mem_cons.1 hpart with rfl | hpart
        · rcases List.mem_cons.1 hc with rfl | hc
          · simpa using h
          · exact ih (h' ▸ List.mem_cons_self) hc
        · exact ih (h' ▸ List.mem_cons_of_mem _ hpart) hc

/-- What stands before and behind the first `c` in a text. -/
def cut? (c : Char) : List Char → Option (List Char × List Char)
  | [] => none
  | x :: s =>
    if x = c then some ([], s) else (cut? c s).map fun (before, behind) => (x :: before, behind)

theorem cut?_eq_some_iff {c : Char} {s before behind : List Char} :
    cut? c s = some (before, behind) ↔ s = before ++ c :: behind ∧ c ∉ before := by
  induction s generalizing before behind with
  | nil => simp [cut?]
  | cons x s ih =>
    by_cases h : x = c
    · subst h
      cases before with
      | nil => simp [cut?]
      | cons y before =>
        refine iff_of_false (by simp [cut?]) ?_
        rintro ⟨hs, hnot⟩
        exact hnot ((List.cons.inj hs).1 ▸ List.mem_cons_self)
    · simp only [cut?, if_neg h, Option.map_eq_some_iff, Prod.exists, ih, Prod.mk.injEq]
      cases before with
      | nil => simp [h]
      | cons y before =>
        constructor
        · rintro ⟨before', behind', ⟨rfl, hnot⟩, hy, rfl⟩
          obtain ⟨rfl, rfl⟩ := List.cons.inj hy
          exact ⟨rfl, by simpa [Ne.symm h] using hnot⟩
        · rintro ⟨hs, hnot⟩
          obtain ⟨rfl, rfl⟩ := List.cons.inj hs
          exact ⟨before, behind, ⟨rfl, by simpa [Ne.symm h] using hnot⟩, rfl, rfl⟩

end PipelineLint.Text
