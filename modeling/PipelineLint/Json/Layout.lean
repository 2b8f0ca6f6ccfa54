import PipelineLint.Json.String

/-!
# The layout of lists and objects that are kept

The brackets, braces, commas and colons between the values that are kept. A comma promises another
element or member, and a comma right before the end is complained about as such.

## Main definitions

* `Json.nextElement`, `Json.nextMember` — whether another element or member follows
* `Json.readElements`, `Json.readMembers` — all elements or members of a list or an object
* `Json.closeList` — the end of a list of which only the first elements were wanted
-/

namespace PipelineLint.Json

/-- What stands where an element or a member may start. -/
inductive Step where
  /-- Another element, or the name of another member behind its quote. -/
  | more (rest : List Char)
  /-- The closing bracket or brace, which is not yet taken. -/
  | done (rest : List Char)

/-- Looks for the next element of a list; `first` tells that none came before. -/
def nextElement (first : Bool) (s : List Char) : Except Failure Step :=
  match skipSpace s with
  | [] => .error (.next .endInList [])
  | ']' :: s => .ok (.done (']' :: s))
  | c :: s =>
    if first then .ok (.more (c :: s))
    else if c = ',' then
      match skipSpace s with
      | [] => .error (.next .endInValue [])
      | ']' :: s => .error (.next .trailingComma (']' :: s))
      | s => .ok (.more s)
    else .error (.next .missingCommaInList (c :: s))

/-- Looks for the next member of an object; `first` tells that none came before. -/
def nextMember (first : Bool) (s : List Char) : Except Failure Step :=
  match skipSpace s with
  | [] => .error (.next .endInObject [])
  | '\x7d' :: s => .ok (.done ('\x7d' :: s))
  | c :: s =>
    if first then
      if c = '"' then .ok (.more s) else .error (.next .keyNotString (c :: s))
    else if c = ',' then
      match skipSpace s with
      | [] => .error (.next .endInValue [])
      | '"' :: s => .ok (.more s)
      | '\x7d' :: s => .error (.next .trailingComma ('\x7d' :: s))
      | s => .error (.next .keyNotString s)
    else .error (.next .missingCommaInObject (c :: s))

/-- Takes the colon between the name and the value of a member. -/
def takeColon (s : List Char) : Except Failure (List Char) :=
  match skipSpace s with
  | [] => .error (.next .endInObject [])
  | ':' :: s => .ok s
  | s => .error (.next .missingColon s)

/-- Takes the bracket behind the last element that was wanted. -/
def closeList (s : List Char) : Except Failure (List Char) :=
  match skipSpace s with
  | [] => .error (.next .endInList [])
  | ']' :: s => .ok s
  | ',' :: s =>
    match skipSpace s with
    | ']' :: s => .error (.next .trailingComma (']' :: s))
    | s => .error (.next .trailingCharacters s)
  | s => .error (.next .trailingCharacters s)

/-- The place of a complaint about an object as a whole: behind its brace where that is the next
thing, and otherwise before the next thing. -/
def pastBrace (s : List Char) : List Char :=
  match skipSpace s with
  | '\x7d' :: s => s
  | s => s

/-- Reads elements and the closing bracket. No list has more elements than the text is long. -/
def readElementsUpTo {α : Type} (element : Reader α) : Nat → Bool → Reader (List α)
  | 0, _, s => .error (.next .endInList s)
  | fuel + 1, first, s =>
    match nextElement first s with
    | .error f => .error f
    | .ok (.done rest) => .ok ([], rest.drop 1)
    | .ok (.more rest) =>
      match element rest with
      | .error f => .error f
      | .ok (a, rest) =>
        match readElementsUpTo element fuel false rest with
        | .ok (as, rest) => .ok (a :: as, rest)
        | .error f => .error f

/-- Reads the elements of a list behind its opening bracket, and the closing one. -/
def readElements {α : Type} (element : Reader α) : Reader (List α) := fun s =>
  readElementsUpTo element (s.length + 1) true s

/-- Reads members and the closing brace. What is known of the object so far goes through `member`,
which starts behind the name. -/
def readMembersUpTo {σ : Type} (member : σ → String → Reader σ) : Nat → Bool → σ → Reader σ
  | 0, _, _, s => .error (.next .endInObject s)
  | fuel + 1, first, known, s =>
    match nextMember first s with
    | .error f => .error f
    | .ok (.done rest) => .ok (known, rest.drop 1)
    | .ok (.more rest) =>
      match readString rest with
      | .error f => .error f
      | .ok (name, rest) =>
        match member known (String.ofList name) rest with
        | .error f => .error f
        | .ok (known, rest) => readMembersUpTo member fuel false known rest

/-- Reads the members of an object behind its opening brace, and the closing one. -/
def readMembers {σ : Type} (member : σ → String → Reader σ) (known : σ) : Reader σ := fun s =>
  readMembersUpTo member (s.length + 1) true known s

end PipelineLint.Json
