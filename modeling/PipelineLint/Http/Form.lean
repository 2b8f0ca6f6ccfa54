import PipelineLint.Http.Percent
import PipelineLint.Text.Split

/-!
# Forms

Named values as the body of a request. Names and values are encoded byte by byte: letters, digits
and `*-._` stand as they are, a space becomes a plus sign, and everything else is percent encoded.
So neither `&` nor `=` stands in what is encoded, and each of them separates.

## Main definitions

* `Http.Form` — named values, in order and with repetitions
* `Http.Form.encode` — the text of a form
* `Http.Form.decode` — the names and values that a text stands for
-/

namespace PipelineLint.Http

/-- Named values, in order and with repetitions. -/
abbrev Form := List (String × String)

namespace Form

/-- The content type of an encoded form. -/
def contentType : String := "application/x-www-form-urlencoded"

/-- Whether `c` stands for itself. -/
def isPlain (c : Char) : Bool := c.isAlphanum || ['*', '-', '.', '_'].contains c

/-- The text of a character. -/
def encodeChar (c : Char) : List Char :=
  if c = ' ' then ['+'] else percentChar (!isPlain ·) c

/-- The text of a name or a value. -/
def encodePart (s : String) : List Char := s.toList.flatMap encodeChar

/-- The text of a name with its value. -/
def encodePair (pair : String × String) : List Char :=
  encodePart pair.1 ++ ['='] ++ encodePart pair.2

/-- The text of a form. -/
def encode (form : Form) : List Char := ['&'].intercalate (form.map encodePair)

/-- The bytes of a name or a value. -/
def decodePart (s : List Char) : List UInt8 :=
  decodePercent (s.map fun c => if c = '+' then ' ' else c)

/-- The bytes of a name and of its value; the first equals sign separates them. -/
def decodePair (s : List Char) : List UInt8 × List UInt8 :=
  (decodePart (s.takeWhile (· != '=')), decodePart ((s.dropWhile (· != '=')).drop 1))

/-- The names and values that a text stands for. -/
def decode (s : List Char) : List (List UInt8 × List UInt8) :=
  ((Text.splitAt (· == '&') s).filter (!·.isEmpty)).map decodePair

end Form

end PipelineLint.Http
