import PipelineLint.Json.String
import PipelineLint.Json.Number

/-!
# Skipping JSON values

Values of unknown members are checked for their grammar and otherwise ignored, to any depth. A comma
promises another element or member: what stands in its place is complained about as such.

## Main definitions

* `Json.skipValue` — the rest of the text behind a value of any kind
-/

namespace PipelineLint.Json

/-- Skips the name of a member and the colon behind it. -/
def skipName (s : List Char) : Except Failure (List Char) :=
  match skipSpace s with
  | [] => .error (.next .endInObject [])
  | '"' :: s =>
    match skipString s with
    | .error f => .error f
    | .ok s =>
      match skipSpace s with
      | [] => .error (.next .endInObject [])
      | ':' :: s => .ok s
      | s => .error (.next .missingColon s)
  | s => .error (.next .keyNotString s)

/-- Skips what follows an element of a list: the closing bracket, or a comma and more elements, each
of them with `value`. -/
def skipElements (value : List Char → Except Failure (List Char)) :
    Nat → List Char → Except Failure (List Char)
  | 0, s => .error (.next .endInList s)
  | fuel + 1, s =>
    match skipSpace s with
    | [] => .error (.next .endInList [])
    | ']' :: s => .ok s
    | ',' :: s =>
      match value s with
      | .ok s => skipElements value fuel s
      | .error f => .error f
    | s => .error (.next .missingCommaInList s)

/-- Skips what follows a member of an object: the closing brace, or a comma and more members, the
value of each of them with `value`. -/
def skipMembers (value : List Char → Except Failure (List Char)) :
    Nat → List Char → Except Failure (List Char)
  | 0, s => .error (.next .endInObject s)
  | fuel + 1, s =>
    match skipSpace s with
    | [] => .error (.next .endInObject [])
    | '\x7d' :: s => .ok s
    | ',' :: s =>
      match skipName s with
      | .error f => .error f
      | .ok s =>
        match value s with
        | .ok s => skipMembers value fuel s
        | .error f => .error f
    | s => .error (.next .missingCommaInObject s)

/-- Skips a value that is nested at most `fuel` deep. -/
def skipNested : Nat → List Char → Except Failure (List Char)
  | 0, s => .error (.next .endInValue s)
  | fuel + 1, s =>
    match skipSpace s with
    | [] => .error (.next .endInValue [])
    | 'n' :: s => takeWord "ull".toList s
    | 't' :: s => takeWord "rue".toList s
    | 'f' :: s => takeWord "alse".toList s
    | '"' :: s => skipString s
    | '-' :: s => skipNumber s
    | '[' :: s =>
      match skipSpace s with
      | [] => .error (.next .endInList [])
      | ']' :: s => .ok s
      | s =>
        match skipNested fuel s with
        | .ok s => skipElements (skipNested fuel) fuel s
        | .error f => .error f
    | '\x7b' :: s =>
      match skipSpace s with
      | [] => .error (.next .endInObject [])
      | '\x7d' :: s => .ok s
      | s =>
        match skipName s with
        | .error f => .error f
        | .ok s =>
          match skipNested fuel s with
          | .ok s => skipMembers (skipNested fuel) fuel s
          | .error f => .error f
    | c :: s => if c.isDigit then skipNumber (c :: s) else .error (.next .missingValue (c :: s))

/-- Skips a value. No value is nested deeper than the text is long. -/
def skipValue (s : List Char) : Except Failure (List Char) := skipNested (s.length + 1) s

end PipelineLint.Json
