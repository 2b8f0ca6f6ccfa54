import PipelineLint.Text.Mark

/-!
# Directions

Most scripts run from left to right, and some from right to left. Digits and punctuation take part
in both. Only the characters that a domain name can hold are told apart here. The data are those of
Unicode 18.

## Main definitions

* `Text.Direction` — how a character takes part in the direction of a line
* `Text.direction` — the direction of a character
-/

namespace PipelineLint.Text

/-- How a character takes part in the direction of a line. -/
inductive Direction where
  | leftToRight
  | rightToLeft
  /-- A digit that stands from left to right in either. -/
  | number
  /-- A digit that counts as part of a right-to-left text. -/
  | arabicNumber
  /-- A mark that goes with the character before it. -/
  | nonspacing
  /-- Punctuation and symbols. -/
  | neutral
  deriving DecidableEq, Repr

/-- The nonspacing marks that have a direction of their own. -/
def directedMarks : List Nat := [0xCBF, 0xCC6, 0x1B3A, 0x1B3C, 0x1B42, 0x11A07, 0x11A08, 0x11C3F]

/-- The bounds of the letters from right to left. -/
def rightToLeftBounds : List Nat :=
  [0x5BE, 0x606, 0x608, 0x609, 0x60B, 0x60C, 0x60D, 0x60E, 0x61B, 0x66A, 0x66D, 0x6DE, 0x6E5, 0x6E9,
   0x6EE, 0x7F6, 0x7FA, 0x903, 0xFBB2, 0xFBC3, 0xFE73, 0x10000, 0x10800, 0x1091F, 0x10920, 0x10B39,
   0x10B40, 0x10D6E, 0x10D6F, 0x10ED0, 0x10F00, 0x11000, 0x1E800, 0x1EEF0]

/-- The bounds of the digits outside ASCII that stand from left to right. -/
def numberBounds : List Nat := [0x6F0, 0x6FA, 0x102E1, 0x102FC]

/-- The bounds of the digits in right-to-left texts. -/
def arabicNumberBounds : List Nat :=
  [0x660, 0x66A, 0x66B, 0x66D, 0x10D30, 0x10D3A, 0x10D40, 0x10D4A, 0x10E60, 0x10E7F]

/-- The bounds of punctuation and symbols outside ASCII. -/
def neutralBounds : List Nat :=
  [0xA1, 0xDF, 0xF7, 0xF8, 0x2B9, 0x2BB, 0x2C2, 0x2D0, 0x2D2, 0x2EE, 0x2EF, 0x371, 0x375, 0x377,
   0x3F6, 0x3F8, 0x58A, 0x903, 0x9F2, 0x9F4, 0x9FB, 0x9FC, 0xAF1, 0xAF9, 0xBF3, 0xC01, 0xC78, 0xC7F,
   0xE3F, 0xE40, 0xF3A, 0xF3E, 0x1390, 0x13A0, 0x1400, 0x1401, 0x169B, 0x16A0, 0x17DB, 0x17DC,
   0x17F0, 0x1810, 0x1940, 0x1946, 0x19DE, 0x1A00, 0x200C, 0x214E, 0x218A, 0x2336, 0x237B, 0x2395,
   0x2396, 0x26AC, 0x26AD, 0x2800, 0x2900, 0x2C30, 0x2CE5, 0x2CEC, 0x2CF9, 0x2D00, 0x2E00, 0x3005,
   0x3008, 0x3021, 0x3030, 0x3031, 0x3037, 0x303B, 0x303D, 0x3041, 0x30A0, 0x30A1, 0x30FB, 0x30FC,
   0x31C0, 0x31F0, 0x4DC0, 0x4E00, 0xA490, 0xA4D0, 0xA60D, 0xA610, 0xA673, 0xA681, 0xA700, 0xA723,
   0xA788, 0xA789, 0xA828, 0xA830, 0xA838, 0xA840, 0xA874, 0xA880, 0xAB6A, 0xABC0, 0xFBC3, 0x10000,
   0x10101, 0x10102, 0x10140, 0x1018D, 0x10190, 0x101D0, 0x1091F, 0x11000, 0x11052, 0x11066,
   0x11660, 0x11680, 0x11FD5, 0x11FFF, 0x16FE2, 0x16FE3, 0x1CC00, 0x1CF50, 0x1D1E9, 0x1D2C0,
   0x1D300, 0x1D360, 0x1DB00, 0x1DC00, 0x1E2FF, 0x1E4D0, 0x1EEF0, 0x1F150, 0x1F16D, 0x1F170,
   0x1F1AD, 0x1F1E6, 0x1F260, 0x20000]

/-- The direction of a character that a domain name can hold. -/
def direction (c : Char) : Direction :=
  if c.toNat < 0x80 then
    if c.isAlpha then .leftToRight else if c.isDigit then .number else .neutral
  else if isNonspacing c && !directedMarks.contains c.toNat then .nonspacing
  else if isWithin numberBounds c then .number
  else if isWithin arabicNumberBounds c then .arabicNumber
  else if isWithin rightToLeftBounds c then .rightToLeft
  else if isWithin neutralBounds c then .neutral
  else .leftToRight

end PipelineLint.Text
