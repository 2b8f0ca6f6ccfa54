import PipelineLint.Text.Shown

/-!
# Quoted texts

A text between double quotes, as an error message shows a string that it found where something else
was expected. The quoting is unambiguous: what is not shown as itself is written with a backslash.

## Main definitions

* `Text.quoteChar` — one character inside quotes
* `Text.quote` — a whole text between double quotes
-/

namespace PipelineLint.Text

/-- `n` in hexadecimal, lower case, without leading zeros. -/
def hexDigits (n : Nat) : List Char := Nat.toDigits 16 n

/-- The form of `c` between double quotes. -/
def quoteChar (c : Char) : List Char :=
  if c == '\x00' then ['\\', '0']
  else if c == '\t' then ['\\', 't']
  else if c == '\r' then ['\\', 'r']
  else if c == '\n' then ['\\', 'n']
  else if c == '"' then ['\\', '"']
  else if c == '\\' then ['\\', '\\']
  else if isShown c then [c]
  else ['\\', 'u', '\x7b'] ++ hexDigits c.toNat ++ ['\x7d']

/-- `s` between double quotes. -/
def quote (s : String) : String :=
  String.ofList ('"' :: s.toList.flatMap quoteChar ++ ['"'])

end PipelineLint.Text
