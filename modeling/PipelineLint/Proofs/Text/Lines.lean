import Mathlib.Tactic.SplitIfs
import PipelineLint.Text.Split
import PipelineLint.Text.Utf8

/-!
# Lines

A text that is printed is a sequence of bytes, and whoever reads it line by line looks for one byte.
That byte is a newline and never a part of another character. So the lines of the bytes are those of
the text, and a text with a newline behind it has one line more than it holds newlines.

## Main definitions

* `Text.IsLines` — the lines of a byte sequence that ends with its last line

## Main results

* `Text.IsLines.unique` — bytes have only one sequence of lines
* `Text.newline_mem_encode_iff` — only a newline is written with that byte
* `Text.isLines_encode` — the lines of a text
-/

namespace PipelineLint.Text

/-- The byte that ends a line. -/
def newline : UInt8 := 0x0A

/-- `bytes` are the lines `ls`, each with a newline behind it, and nothing else. -/
structure IsLines (bytes : List UInt8) (ls : List (List UInt8)) : Prop where
  joined : bytes = ls.flatMap (· ++ [newline])
  unbroken : ∀ l ∈ ls, newline ∉ l

namespace IsLines

variable {bytes bytes' l : List UInt8} {ls ls' : List (List UInt8)}

theorem nil : IsLines [] [] := ⟨rfl, nofun⟩

theorem cons (hl : newline ∉ l) (h : IsLines bytes ls) :
    IsLines (l ++ newline :: bytes) (l :: ls) := by
  refine ⟨?_, List.forall_mem_cons.mpr ⟨hl, h.unbroken⟩⟩
  rw [List.flatMap_cons, ← h.joined, List.append_assoc]
  rfl

/-- What is put before the first line becomes a part of it. -/
theorem extend {start : List UInt8} (hstart : newline ∉ start) (h : IsLines bytes (l :: ls)) :
    IsLines (start ++ bytes) ((start ++ l) :: ls) := by
  obtain ⟨rfl, hunbroken⟩ := h
  obtain ⟨hl, hls⟩ := List.forall_mem_cons.mp hunbroken
  refine ⟨by simp, List.forall_mem_cons.mpr ⟨?_, hls⟩⟩
  rw [List.mem_append]
  exact not_or.mpr ⟨hstart, hl⟩

theorem append (h : IsLines bytes ls) (h' : IsLines bytes' ls') :
    IsLines (bytes ++ bytes') (ls ++ ls') := by
  refine ⟨?_, List.forall_mem_append.mpr ⟨h.unbroken, h'.unbroken⟩⟩
  rw [List.flatMap_append, ← h.joined, ← h'.joined]

theorem flatMap {α : Type} {f : α → List UInt8} {g : α → List (List UInt8)} {xs : List α}
    (h : ∀ x ∈ xs, IsLines (f x) (g x)) : IsLines (xs.flatMap f) (xs.flatMap g) := by
  induction xs with
  | nil => exact nil
  | cons x xs ih =>
    obtain ⟨hx, hxs⟩ := List.forall_mem_cons.mp h
    exact hx.append (ih hxs)

theorem inj_of_append {rest rest' l' : List UInt8} (hl : newline ∉ l) (hl' : newline ∉ l')
    (h : l ++ newline :: rest = l' ++ newline :: rest') : l = l' ∧ rest = rest' := by
  obtain ⟨inside, rfl, hinside⟩ | ⟨inside, rfl, hinside⟩ := List.append_eq_append_iff.mp h
  · cases inside with
    | nil => simpa using hinside
    | cons b inside => exact absurd (by simp [(List.cons.inj hinside).1]) hl'
  · cases inside with
    | nil => simpa [eq_comm] using hinside
    | cons b inside => exact absurd (by simp [(List.cons.inj hinside).1]) hl

/-- **Bytes have only one sequence of lines.** -/
theorem unique (h : IsLines bytes ls) (h' : IsLines bytes ls') : ls = ls' := by
  obtain ⟨rfl, hls⟩ := h
  obtain ⟨hjoined, hls'⟩ := h'
  induction ls generalizing ls' with
  | nil =>
    cases ls' with
    | nil => rfl
    | cons l' ls' => simp at hjoined
  | cons l ls ih =>
    cases ls' with
    | nil => simp at hjoined
    | cons l' ls' =>
      obtain ⟨hl, hmore⟩ := List.forall_mem_cons.mp hls
      obtain ⟨hl', hmore'⟩ := List.forall_mem_cons.mp hls'
      simp only [List.flatMap_cons, List.append_assoc, List.singleton_append] at hjoined
      obtain ⟨rfl, hrest⟩ := inj_of_append hl hl' hjoined
      rw [ih hmore hrest hmore']

end IsLines

/-! ## Texts -/

theorem newline_mem_utf8EncodeChar_iff {c : Char} :
    newline ∈ String.utf8EncodeChar c ↔ c = '\n' := by
  have hval : c.val.toNat = c.toNat := rfl
  have hchar : c = '\n' ↔ c.toNat = 0x0A := by
    rw [← Char.toNat_inj]
    rfl
  have hnewline : newline.toNat = 0x0A := rfl
  rw [hchar, String.utf8EncodeChar, hval]
  split_ifs <;>
    simp only [List.mem_cons, List.not_mem_nil, or_false, ← UInt8.toNat_inj, UInt8.toNat_ofNat',
      hnewline] <;>
    omega

theorem newline_mem_encode_iff {s : List Char} : newline ∈ Utf8.encode s ↔ '\n' ∈ s := by
  simp only [Utf8.encode, List.mem_flatMap, newline_mem_utf8EncodeChar_iff, exists_eq_right]

/-- **The lines of a text** that is printed with a newline behind it are the parts between its
newlines. -/
theorem isLines_encode (s : List Char) :
    IsLines (Utf8.encode (s ++ ['\n'])) ((splitAt (· == '\n') s).map Utf8.encode) := by
  induction s with
  | nil => exact .cons (l := []) (by simp) .nil
  | cons c s ih =>
    rw [splitAt, List.cons_append, Utf8.encode_cons]
    split
    next hc =>
      obtain rfl : c = '\n' := by simpa using hc
      exact ih.cons (l := []) (by simp)
    next hc =>
      have hc : newline ∉ String.utf8EncodeChar c := by
        rw [newline_mem_utf8EncodeChar_iff]
        simpa using hc
      split
      next hparts =>
        have hlength := length_splitAt (· == '\n') s
        simp [hparts] at hlength
      next part more hparts =>
        rw [hparts, List.map_cons] at ih
        rw [List.map_cons, Utf8.encode_cons]
        exact ih.extend hc

end PipelineLint.Text
