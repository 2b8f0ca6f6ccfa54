import PipelineLint.Http.Domain.Mapping
import PipelineLint.Http.Punycode
import PipelineLint.Text.Composed
import PipelineLint.Text.Direction
import PipelineLint.Text.Joining
import PipelineLint.Text.Prefix

/-!
# Labels of domain names

A label is a part of a domain name between two full stops. One that is not ASCII is written in ASCII
behind `xn--`. It must not start with a mark; the characters that ask their neighbours to join, or
not to, may stand only where this makes a difference; and in a name that holds letters from right to
left, every label must keep to one direction.

## Main definitions

* `Http.Domain.Label` — a label with its form in ASCII
* `Http.Domain.Label.read?` — reads a label of usual characters
* `Http.Domain.keepDirections` — whether the labels of a name keep to their directions
-/

namespace PipelineLint.Http.Domain

/-- A label. -/
structure Label where
  /-- The characters that are meant. -/
  text : List Char
  /-- Their form in ASCII. -/
  ascii : List Char

namespace Label

/-! ## Joining -/

/-- Whether `c` is a mark that takes away the vowel of the letter before it. -/
def isVirama (c : Char) : Bool := Text.combiningClass c == 9

/-- Whether `c` makes a difference to how its neighbours join; those before it are given latest
first. -/
def fits (before : List Char) (c : Char) (after : List Char) : Bool :=
  if c == joiner then before.head?.any isVirama
  else if c == nonJoiner then
    before.head?.any isVirama ||
      ((before.dropWhile Text.isTransparent).head?.any Text.joinsOnward &&
        (after.dropWhile Text.isTransparent).head?.any Text.joinsBack)
  else true

/-- Whether every character of a text fits where it stands. -/
def allFit (before : List Char) : List Char → Bool
  | [] => true
  | c :: s => fits before c s && allFit (c :: before) s

/-! ## Directions -/

/-- Whether a text asks for right to left. -/
def hasRightToLeft (s : List Char) : Bool :=
  s.any fun c => Text.direction c == .rightToLeft || Text.direction c == .arabicNumber

/-- Whether a text keeps to the direction of its first character. Marks at its end do not count. -/
def keepsDirection (s : List Char) : Bool :=
  let rest := ((s.drop 1).reverse.map Text.direction).dropWhile (· == .nonspacing)
  match s.head?.map Text.direction with
  | none => true
  | some .leftToRight =>
    rest.all (fun d => d != .rightToLeft && d != .arabicNumber)
      && rest.head?.all (fun d => d == .leftToRight || d == .number)
  | some .rightToLeft =>
    rest.all (· != .leftToRight) && !(rest.contains .number && rest.contains .arabicNumber)
      && rest.head?.all (fun d => d == .rightToLeft || d == .number || d == .arabicNumber)
  | _ => false

/-! ## Reading -/

/-- Whether a text is ASCII. -/
def isAscii (s : List Char) : Bool := s.all fun c => c.toNat < 0x80

/-- What stands before the ASCII form of a text that is not ASCII. -/
def mark : List Char := "xn--".toList

/-- The longest text of a label that is not ASCII. -/
def textLimit : Nat := 1000

/-- The longest form of such a label behind its mark. -/
def asciiLimit : Nat := 2000

/-- Whether a text that is not ASCII can be a label. -/
def isFit (s : List Char) : Bool :=
  !s.head?.any Text.isMark && allFit [] s && s.length ≤ textLimit

/-- The text that is meant by the ASCII form of a label. -/
def readAscii? (s : List Char) : Option (List Char) :=
  if s.isEmpty || s.getLast? == some '-' || asciiLimit < s.length then none
  else
    match Punycode.decode? s with
    | some text =>
      if text.all isUsual && Text.compose text == text && isFit text then some text else none
    | none => none

/-- Reads a label of usual characters. -/
def read? (s : List Char) : Option Label :=
  match Text.after? mark s with
  | some rest => if isAscii rest then (readAscii? rest).map (⟨·, s⟩) else none
  | none =>
    if isAscii s then some ⟨s, s⟩
    else if isFit s then some ⟨s, mark ++ Punycode.encode s⟩
    else none

end Label

/-- Whether the labels of a name keep to their directions. They need not where nothing asks for
right to left. -/
def keepDirections (labels : List Label) : Bool :=
  !labels.any (fun l => Label.hasRightToLeft l.text)
    || labels.all (fun l => Label.keepsDirection l.text)

end PipelineLint.Http.Domain
