import PipelineLint.Json.Failure

/-!
# JSON strings and words

Strings are read in two ways. A string that is kept is decoded, and every surrogate in it must
belong to a pair. A string that is skipped is only checked for escapes and control characters. Both
readers start behind the opening quote and take the closing one.

## Main definitions

* `Json.readString` — the characters of a string that is kept
* `Json.skipString` — the rest of the text behind a string that is skipped
* `Json.takeWord` — the rest of the text behind the remainder of `null`, `true` or `false`
-/

namespace PipelineLint.Json

/-- JSON's white space. -/
def isSpace (c : Char) : Bool := c == ' ' || c == '\n' || c == '\t' || c == '\r'

/-- `s` without its leading white space. -/
def skipSpace (s : List Char) : List Char := s.dropWhile isSpace

/-- Takes `word` from the front of a text. -/
def takeWord : List Char → List Char → Except Failure (List Char)
  | [], s => .ok s
  | _ :: _, [] => .error (.here .endInValue [])
  | w :: word, c :: s =>
    if w == c then takeWord word s else .error (.next .wrongWord (c :: s))

/-- The character that a one-letter escape stands for. -/
def escaped? : Char → Option Char
  | '"' => some '"'
  | '\\' => some '\\'
  | '/' => some '/'
  | 'b' => some '\x08'
  | 'f' => some '\x0C'
  | 'n' => some '\n'
  | 'r' => some '\r'
  | 't' => some '\t'
  | _ => none

/-- The value of a hexadecimal digit. -/
def hexValue? (c : Char) : Option Nat :=
  if '0' ≤ c ∧ c ≤ '9' then some (c.toNat - 0x30)
  else if 'a' ≤ c ∧ c ≤ 'f' then some (c.toNat - 0x61 + 10)
  else if 'A' ≤ c ∧ c ≤ 'F' then some (c.toNat - 0x41 + 10)
  else none

/-- The value of the four hexadecimal digits at the start of `s`. The four bytes are taken as one:
fewer bytes are an early end of the text, whatever they are. -/
def codeUnit (s : List Char) : Except Failure Nat :=
  match s with
  | a :: b :: c :: d :: _ =>
    match hexValue? a, hexValue? b, hexValue? c, hexValue? d with
    | some a, some b, some c, some d => .ok (4096 * a + 256 * b + 16 * c + d)
    | _, _, _, _ => .error ⟨.badEscape, s, 4⟩
  | _ =>
    if byteLength s < 4 then .error (.here .endInString []) else .error ⟨.badEscape, s, 4⟩

/-- Whether `n` is the first half of a surrogate pair. -/
def isLeading (n : Nat) : Bool := 0xD800 ≤ n && n ≤ 0xDBFF

/-- Whether `n` is the second half of a surrogate pair. -/
def isTrailing (n : Nat) : Bool := 0xDC00 ≤ n && n ≤ 0xDFFF

/-- The character that a surrogate pair stands for. -/
def pairChar (leading trailing : Nat) : Char :=
  Char.ofNat (0x10000 + 0x400 * (leading - 0xD800) + (trailing - 0xDC00))

/-- Puts a character in front of the string that was read. -/
def consChar (c : Char) : Except Failure (List Char × List Char) →
    Except Failure (List Char × List Char)
  | .ok (s, rest) => .ok (c :: s, rest)
  | .error f => .error f

/-- The characters up to the closing quote, with all escapes decoded. -/
def readString : Reader (List Char)
  | [] => .error (.here .endInString [])
  | '"' :: s => .ok ([], s)
  | '\\' :: s =>
    match s with
    | [] => .error (.here .endInString [])
    | 'u' :: t =>
      match codeUnit t, t with
      | .error f, _ => .error f
      | .ok n, _ :: _ :: _ :: _ :: rest =>
        if isTrailing n then .error (.here .loneSurrogate rest)
        else if !isLeading n then consChar (Char.ofNat n) (readString rest)
        else
          match rest with
          | [] => .error (.here .endInString [])
          | '\\' :: after =>
            match after with
            | [] => .error (.here .endInString [])
            | 'u' :: t =>
              match codeUnit t, t with
              | .error f, _ => .error f
              | .ok m, _ :: _ :: _ :: _ :: rest =>
                if isTrailing m then consChar (pairChar n m) (readString rest)
                else .error (.here .loneSurrogate rest)
              | .ok _, _ => .error (.here .endInString [])
            | c :: s => .error (.next .halfSurrogatePair (c :: s))
          | c :: s => .error (.next .halfSurrogatePair (c :: s))
      | .ok _, _ => .error (.here .endInString [])
    | c :: t =>
      match escaped? c with
      | some e => consChar e (readString t)
      | none => .error (.next .badEscape (c :: t))
  | c :: s =>
    if c < ' ' then .error (.next .controlCharacter (c :: s)) else consChar c (readString s)

/-- The text behind the closing quote of a string that is not kept. -/
def skipString : List Char → Except Failure (List Char)
  | [] => .error (.here .endInString [])
  | '"' :: s => .ok s
  | '\\' :: s =>
    match s with
    | [] => .error (.here .endInString [])
    | 'u' :: t =>
      match codeUnit t, t with
      | .error f, _ => .error f
      | .ok _, _ :: _ :: _ :: _ :: rest => skipString rest
      | .ok _, _ => .error (.here .endInString [])
    | c :: t =>
      match escaped? c with
      | some _ => skipString t
      | none => .error (.next .badEscape (c :: t))
  | c :: s =>
    if c < ' ' then .error (.here .controlCharacter (c :: s)) else skipString s

end PipelineLint.Json
