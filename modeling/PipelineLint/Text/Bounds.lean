/-!
# Classes of characters

A class of characters is given by its bounds: the code points at which membership changes, in
ascending order. What lies below the first bound is outside.

## Main definitions

* `Text.isWithin` — membership in the class that some bounds give
-/

namespace PipelineLint.Text

/-- Whether `c` is in the class with these bounds: an odd number of them lies at or below it. -/
def isWithin (bounds : List Nat) (c : Char) : Bool := bounds.countP (· ≤ c.toNat) % 2 == 1

end PipelineLint.Text
