import PipelineLint.Text.Utf8

/-!
# Percent encoding

A byte that may not stand as it is becomes a percent sign and two hexadecimal digits. Which
characters may stand depends on the place; characters outside ASCII never may.

## Main definitions

* `Http.encodePercent` — a text with every character of a class encoded
* `Http.decodePercent` — the bytes that an encoded text stands for
-/

namespace PipelineLint.Http

/-- The upper case hexadecimal digit of `n`, which is below 16. -/
def hexDigit (n : Nat) : Char :=
  if n < 10 then Char.ofNat (0x30 + n) else Char.ofNat (0x41 + n - 10)

/-- The value of a hexadecimal digit. -/
def hexValue? (c : Char) : Option Nat :=
  if '0' ≤ c ∧ c ≤ '9' then some (c.toNat - 0x30)
  else if 'A' ≤ c ∧ c ≤ 'F' then some (c.toNat - 0x41 + 10)
  else if 'a' ≤ c ∧ c ≤ 'f' then some (c.toNat - 0x61 + 10)
  else none

/-- A byte as a percent sign and two digits. -/
def percentByte (b : UInt8) : List Char :=
  ['%', hexDigit (b.toNat / 16), hexDigit (b.toNat % 16)]

/-- A character, encoded when `encoded` holds or it is outside ASCII. -/
def percentChar (encoded : Char → Bool) (c : Char) : List Char :=
  if encoded c || 0x80 ≤ c.toNat then (String.utf8EncodeChar c).flatMap percentByte else [c]

/-- A text with every character encoded for which `encoded` holds. -/
def encodePercent (encoded : Char → Bool) (s : List Char) : List Char :=
  s.flatMap (percentChar encoded)

/-- The bytes that a text stands for. A percent sign without two digits stands for itself. -/
def decodePercent : List Char → List UInt8
  | [] => []
  | '%' :: a :: b :: s =>
    match hexValue? a, hexValue? b with
    | some x, some y => UInt8.ofNat (16 * x + y) :: decodePercent s
    | _, _ => 0x25 :: decodePercent (a :: b :: s)
  | c :: s => String.utf8EncodeChar c ++ decodePercent s

/-! ## Classes of characters -/

/-- The control characters of ASCII. -/
def isControl (c : Char) : Bool := c.toNat < 0x20 || c.toNat == 0x7F

/-- What is encoded in a fragment. -/
def inFragment (c : Char) : Bool := isControl c || [' ', '"', '<', '>', '\x60'].contains c

/-- What is encoded in a path. -/
def inPath (c : Char) : Bool := inFragment c || ['#', '?', '\x7b', '\x7d'].contains c

/-- What is encoded in a user's name or password. -/
def inUserInfo (c : Char) : Bool :=
  inPath c || ['/', ':', ';', '=', '@', '[', '\\', ']', '^', '|'].contains c

/-- What is encoded in a query. -/
def inQuery (c : Char) : Bool := isControl c || [' ', '"', '#', '<', '>'].contains c

/-- What is encoded in a query of a web address. -/
def inWebQuery (c : Char) : Bool := inQuery c || c == '\''

end PipelineLint.Http
