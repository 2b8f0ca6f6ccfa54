import PipelineLint.Text.Split

/-!
# Tables of characters

A table gives some characters a text each. It is written in hexadecimal code points, with `+`
between those of one text. An entry belongs to the character that follows the one of the entry
before, unless it names its own in front of a colon: `C0:E0 E1 D8:6F+308` is a table for U+00C0,
U+00C1 and U+00D8.

## Main definitions

* `Text.Table` — characters with a text each
* `Text.Table.read` — the table that a text denotes
-/

namespace PipelineLint.Text

/-- Characters with a text each. -/
abbrev Table := List (Char × List Char)

namespace Table

/-- The value of a hexadecimal digit in upper case. -/
def digitValue (c : Char) : Nat := if c.isDigit then c.toNat - 0x30 else c.toNat - 0x37

/-- The number that hexadecimal digits in upper case denote. -/
def number (s : List Char) : Nat := s.foldl (fun n c => 16 * n + digitValue c) 0

/-- The text that an entry denotes. -/
def entryText (s : List Char) : List Char :=
  (splitAt (· == '+') s).map fun code => Char.ofNat (number code)

/-- The entries, of which the first belongs to code point `n` unless it says otherwise. -/
def readEntries : Nat → List (List Char) → Table
  | _, [] => []
  | n, entry :: more =>
    match splitAt (· == ':') entry with
    | [code, text] =>
      (Char.ofNat (number code), entryText text) :: readEntries (number code + 1) more
    | _ => (Char.ofNat n, entryText entry) :: readEntries (n + 1) more

/-- The table that a text denotes. -/
def read (text : String) : Table :=
  readEntries 0 ((splitAt Char.isWhitespace text.toList).filter (!·.isEmpty))

end Table

end PipelineLint.Text
