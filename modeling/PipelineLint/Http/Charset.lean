import PipelineLint.Text.Blank
import PipelineLint.Text.Split
import PipelineLint.Text.Utf8

/-!
# The text of a body

A body is a byte sequence, and its text depends on the character set. A byte order mark at its start
decides, then the content type of the answer, and otherwise it is UTF-8. Reading never fails: U+FFFD
stands for what is broken.

There are many more character sets than are known here. So `decodeBody` is told how to read a body
that is not UTF-8, and `decoder?` is only one way to know it from the content type.

## Main definitions

* `Http.Decoder` — how bytes are read in a character set
* `Http.decodeBody` — the text of a body
* `Http.Charset` — the character sets that are known
* `Http.Charset.decoder?` — how to read a body that is not UTF-8, for these character sets
-/

namespace PipelineLint.Http

/-- How bytes are read in a character set. -/
abbrev Decoder := List UInt8 → List Char

/-- The character sets that are known. -/
inductive Charset where
  | utf8
  | utf16 (bigEndian : Bool)
  | westEuropean
  deriving DecidableEq, Repr

namespace Charset

/-- The characters of the bytes from 0x80 to 0x9F in the West European set; every other byte is the
code point of its character. -/
def westEuropeanExtras : List Nat :=
  [0x20AC, 0x81, 0x201A, 0x192, 0x201E, 0x2026, 0x2020, 0x2021, 0x2C6, 0x2030, 0x160, 0x2039,
    0x152, 0x8D, 0x17D, 0x8F, 0x90, 0x2018, 0x2019, 0x201C, 0x201D, 0x2022, 0x2013, 0x2014,
    0x2DC, 0x2122, 0x161, 0x203A, 0x153, 0x9D, 0x17E, 0x178]

/-- The character of a byte in the West European set. -/
def westEuropeanChar (b : UInt8) : Char :=
  let n := b.toNat
  if 0x80 ≤ n && n < 0xA0 then Char.ofNat ((westEuropeanExtras[n - 0x80]?).getD n)
  else Char.ofNat n

/-- The units of a sequence of byte pairs, and whether a single byte is left over. -/
def units (bigEndian : Bool) : List UInt8 → List Nat × Bool
  | [] => ([], false)
  | [_] => ([], true)
  | a :: b :: s =>
    let (us, rest) := units bigEndian s
    ((if bigEndian then 256 * a.toNat + b.toNat else 256 * b.toNat + a.toNat) :: us, rest)

/-- Whether a unit is the first half of a character. -/
def isLeading (u : Nat) : Bool := 0xD800 ≤ u && u < 0xDC00

/-- Whether a unit is the second half of a character. -/
def isTrailing (u : Nat) : Bool := 0xDC00 ≤ u && u < 0xE000

/-- The character that stands for what is broken. -/
def replacement : Char := '\uFFFD'

/-- The characters of a sequence of units. -/
def joinUnits : List Nat → List Char
  | [] => []
  | [u] => [if isLeading u || isTrailing u then replacement else Char.ofNat u]
  | u :: v :: s =>
    if isLeading u && isTrailing v then
      Char.ofNat (0x10000 + 0x400 * (u - 0xD800) + (v - 0xDC00)) :: joinUnits s
    else if isLeading u || isTrailing u then replacement :: joinUnits (v :: s)
    else Char.ofNat u :: joinUnits (v :: s)

/-- The characters of a sequence of byte pairs. A first half at the end and a byte left over behind
it are broken together. -/
def decodeUtf16 (bigEndian : Bool) (bytes : List UInt8) : List Char :=
  let (us, rest) := units bigEndian bytes
  let endsOpen := us.getLast?.any isLeading
  joinUnits us ++ if rest && !endsOpen then [replacement] else []

/-- The character set of a label. -/
def ofLabel? (label : List Char) : Option Charset :=
  let name := String.ofList (label.map Char.toLower)
  if ["utf-8", "utf8", "unicode-1-1-utf-8", "unicode11utf8", "unicode20utf8",
      "x-unicode20utf8"].contains name then some .utf8
  else if ["utf-16", "utf-16le", "csunicode", "iso-10646-ucs-2", "ucs-2", "unicode",
      "unicodefeff"].contains name then some (.utf16 false)
  else if ["utf-16be", "unicodefffe"].contains name then some (.utf16 true)
  else if ["windows-1252", "cp1252", "x-cp1252", "ascii", "us-ascii", "ansi_x3.4-1968", "latin1",
      "l1", "iso-8859-1", "iso8859-1", "iso88591", "iso_8859-1", "iso_8859-1:1987", "iso-ir-100",
      "csisolatin1", "cp819", "ibm819"].contains name then some .westEuropean
  else none

/-- The label that a parameter gives, if it is about the character set. The label may stand in
quotes. -/
def labelOf? (parameter : List Char) : Option (List Char) :=
  let parameter := Text.trim parameter
  let name := (parameter.takeWhile (· != '=')).map Char.toLower
  let label := (parameter.dropWhile (· != '=')).drop 1
  if name = "charset".toList then some (label.filter (· != '"')) else none

/-- The character set that a content type names, and UTF-8 when it names none that is known. -/
def ofContentType (value : String) : Charset :=
  ((((Text.splitAt (· == ';') value.toList).drop 1).findSome? labelOf?).bind ofLabel?).getD .utf8

/-- How to read a body with a content type that names a character set other than UTF-8. -/
def decoder? (contentType : String) : Option Decoder :=
  match ofContentType contentType with
  | .utf8 => none
  | .utf16 bigEndian => some (decodeUtf16 bigEndian)
  | .westEuropean => some (List.map westEuropeanChar)

end Charset

/-- The text of a body, where `decoder?` is how to read it if it is not UTF-8. A byte order mark at
its start says better how to read it, and does not belong to the text. -/
def decodeBody (decoder? : Option Decoder) : List UInt8 → List Char
  | 0xEF :: 0xBB :: 0xBF :: s => Text.Utf8.decodeLenient s
  | 0xFE :: 0xFF :: s => Charset.decodeUtf16 true s
  | 0xFF :: 0xFE :: s => Charset.decodeUtf16 false s
  | s => decoder?.getD Text.Utf8.decodeLenient s

end PipelineLint.Http
