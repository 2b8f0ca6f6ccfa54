/-!
# Leading words

What follows a fixed word at the start of a text. The main statement says that nothing is lost: the
word and what follows it are the text.

## Main definitions

* `Text.after?` — the rest of a text behind a word that starts it
-/

namespace PipelineLint.Text

/-- What follows `word` in `s`, when `s` starts with it. -/
def after? : List Char → List Char → Option (List Char)
  | [], s => some s
  | _ :: _, [] => none
  | w :: word, c :: s => if w == c then after? word s else none

theorem after?_eq_some_iff {word s rest : List Char} :
    after? word s = some rest ↔ s = word ++ rest := by
  induction word generalizing s with
  | nil => simp [after?]
  | cons w word ih =>
    cases s with
    | nil => simp [after?]
    | cons c s =>
      by_cases h : w = c
      · subst h; simp [after?, ih]
      · simp [after?, h, Ne.symm h]

@[simp] theorem after?_append (word rest : List Char) : after? word (word ++ rest) = some rest :=
  after?_eq_some_iff.2 rfl

end PipelineLint.Text
