import PipelineLint.Text.Graphic
import PipelineLint.Text.Mark

/-!
# Characters shown as they are

A quoted text shows most characters as themselves. Characters without a form of their own, blank
letters and marks that extend the character before them are shown by their code points instead, so
that a reader can tell them apart.

## Main definitions

* `Text.isShown` — whether a character is shown as itself
-/

namespace PipelineLint.Text

/-- The letters that only fill the place of a letter, and leave it blank. -/
def fillers : List Nat := [0x115F, 0x1160, 0x3164, 0xFFA0]

/-- Whether a quoted text shows `c` as itself. -/
def isShown (c : Char) : Bool :=
  if c.toNat < 0x7F then 0x20 ≤ c.toNat
  else isGraphic c && !isExtender c && !fillers.contains c.toNat

end PipelineLint.Text
