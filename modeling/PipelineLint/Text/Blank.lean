/-!
# Blanks

White space in the Unicode sense, and trimming by it. Crumb halves, section names, keys and values
are trimmed by this class, and a location suffix may hold any run of it.

## Main definitions

* `Text.isBlank` — the White_Space property, all 25 code points of it
* `Text.trim`, `trimStart`, `trimEnd` — a text without its outer blanks
-/

namespace PipelineLint.Text

/-- The code points with the White_Space property. -/
def isBlank (c : Char) : Bool :=
  let n := c.toNat
  (0x9 ≤ n && n ≤ 0xD) || n == 0x20 || n == 0x85 || n == 0xA0 || n == 0x1680
    || (0x2000 ≤ n && n ≤ 0x200A) || n == 0x2028 || n == 0x2029 || n == 0x202F || n == 0x205F
    || n == 0x3000

/-- `s` without its leading blanks. -/
def trimStart (s : List Char) : List Char := s.dropWhile isBlank

/-- `s` without its trailing blanks. -/
def trimEnd (s : List Char) : List Char := (s.reverse.dropWhile isBlank).reverse

/-- `s` without its leading and trailing blanks. -/
def trim (s : List Char) : List Char := trimEnd (trimStart s)

@[simp] theorem trim_nil : trim [] = [] := rfl

end PipelineLint.Text
