import PipelineLint.Text.Blank
import PipelineLint.Text.DecimalDigit
import PipelineLint.Text.Prefix

/-!
# Locations inside messages

The validator puts the position of a problem at the end of its message, as in
`Expected a stage @ line 4, column 5.`. The suffix may follow a colon and blanks, and a final
newline may follow it. Where several endings of a message have that form, the longest is taken, so
that nothing of the suffix stays behind.

A position counts from 1. A number that is no position (zero, too large, or written with digits
other than the ASCII ones) reads as 1, and its suffix is removed all the same.

## Main definitions

* `Diagnostic.suffixNumerals?` — the two numerals of a text that is a location suffix throughout
* `Diagnostic.locate?` — the longest location suffix of a text, and what comes before it
* `Diagnostic.Located.ofMessage` — a message without its suffix, with its position
-/

namespace PipelineLint.Diagnostic

open Text

/-- A position is below this bound: it fits 32 bits. -/
def positionBound : Nat := 0x100000000

/-- The position that a numeral stands for. -/
def positionOf (digits : List Char) : Nat :=
  match numeral? digits with
  | some n => if 1 ≤ n && n < positionBound then n else 1
  | none => 1

/-- `s` without a colon at its start. -/
def dropColon : List Char → List Char
  | ':' :: s => s
  | s => s

/-- `s` without a newline at its end. -/
def dropFinalNewline (s : List Char) : List Char :=
  if s.getLast? == some '\n' then s.dropLast else s

/-- The line and column numerals of `s`, when the whole of `s` is a location suffix. -/
def suffixNumerals? (s : List Char) : Option (List Char × List Char) := do
  let s ← after? "@ line".toList ((dropColon s).dropWhile isBlank)
  let s := s.dropWhile isBlank
  let line := s.takeWhile isDecimalDigit
  let s ← after? ", column ".toList (s.dropWhile isDecimalDigit)
  let column := s.takeWhile isDecimalDigit
  let s ← after? ".".toList (s.dropWhile isDecimalDigit)
  if line ≠ [] ∧ column ≠ [] ∧ (s = [] ∨ s = ['\n']) then some (line, column) else none

/-- The text before the longest location suffix of `s`, and the numerals of the suffix. -/
def locate? (s : List Char) : Option (List Char × List Char × List Char) :=
  match suffixNumerals? s with
  | some (line, column) => some ([], line, column)
  | none =>
    match s with
    | [] => none
    | c :: s => (locate? s).map fun (before, numerals) => (c :: before, numerals)

/-- A message without its location suffix. -/
structure Located where
  line : Nat
  column : Nat
  text : List Char
  deriving DecidableEq, Repr

/-- Takes the location out of a message. A message without one is placed at the start of its file
and keeps all but one final newline. -/
def Located.ofMessage (raw : List Char) : Located :=
  match locate? raw with
  | some (text, line, column) => ⟨positionOf line, positionOf column, text⟩
  | none => ⟨1, 1, dropFinalNewline raw⟩

end PipelineLint.Diagnostic
