import PipelineLint.Json.Layout
import PipelineLint.Json.Number

/-!
# JSON values

Values of any kind, kept whole, and the readers for values of a wanted kind. Members of an object
keep their order and their repetitions. The number of lists and objects that may be open at once is
limited.

## Main definitions

* `Json.Value` — a value of any kind
* `Json.readValue` — reads a value of any kind
* `Json.readText`, `Json.readNullable` — read a value of a wanted kind
* `Json.wrongKind` — the complaint about a value of another kind
-/

namespace PipelineLint.Json

/-- A JSON value. -/
inductive Value where
  | null
  | bool (b : Bool)
  | number (n : Number)
  | string (s : String)
  | list (vs : List Value)
  | object (members : List (String × Value))

/-- The number of lists and objects that may be open at once. -/
def depthLimit : Nat := 127

/-- Adds a member, behind whose name `value` reads the value, to the members known so far. -/
def addMember {α : Type} (value : Reader α) (known : List (String × α)) (name : String) :
    Reader (List (String × α)) := fun s =>
  match takeColon s with
  | .error f => .error f
  | .ok s =>
    match value s with
    | .error f => .error f
    | .ok (v, s) => .ok (known ++ [(name, v)], s)

/-- Reads a value; at most `depth` more lists and objects may be opened. -/
def readValue (depth : Nat) : Reader Value := fun s =>
  match skipSpace s with
  | [] => .error (.next .endInValue [])
  | 'n' :: s => (takeWord "ull".toList s).map fun s => (.null, s)
  | 't' :: s => (takeWord "rue".toList s).map fun s => (.bool true, s)
  | 'f' :: s => (takeWord "alse".toList s).map fun s => (.bool false, s)
  | '"' :: s => (readString s).map fun (t, s) => (.string (String.ofList t), s)
  | '-' :: s => (readNumber true s).map fun (n, s) => (.number n, s)
  | '[' :: s =>
    match depth with
    | 0 => .error (.next .tooDeep ('[' :: s))
    | depth + 1 => (readElements (readValue depth) s).map fun (vs, s) => (.list vs, s)
  | '\x7b' :: s =>
    match depth with
    | 0 => .error (.next .tooDeep ('\x7b' :: s))
    | depth + 1 =>
      (readMembers (addMember (readValue depth)) [] s).map fun (ms, s) => (.object ms, s)
  | c :: s =>
    if c.isDigit then (readNumber false (c :: s)).map fun (n, s) => (.number n, s)
    else .error (.next .missingValue (c :: s))

/-- The failure at `s`, where a value starts that is not the `expected` one. A string, a number or a
word is read first, and its own failure goes before. -/
def wrongKind (expected : String) (s : List Char) : Failure :=
  let found (description : String) (rest : List Char) : Failure :=
    .here (.wrongKind description expected) rest
  let word (w description : String) (s : List Char) : Failure :=
    match takeWord w.toList s with
    | .ok rest => found description rest
    | .error f => f
  let number (negative : Bool) (s : List Char) : Failure :=
    match readNumber negative s with
    | .ok (n, rest) => found n.describe rest
    | .error f => f
  match s with
  | 'n' :: s => word "ull" "null" s
  | 't' :: s => word "rue" "boolean `true`" s
  | 'f' :: s => word "alse" "boolean `false`" s
  | '-' :: s => number true s
  | '"' :: s =>
    match readString s with
    | .ok (t, rest) => found s!"string {Text.quote (String.ofList t)}" rest
    | .error f => f
  | '[' :: s => found "sequence" ('[' :: s)
  | '\x7b' :: s => found "map" ('\x7b' :: s)
  | c :: s => if c.isDigit then number false (c :: s) else .next .missingValue (c :: s)
  | [] => .next .missingValue []

/-- Reads a string. -/
def readText : Reader String := fun s =>
  match skipSpace s with
  | [] => .error (.next .endInValue [])
  | '"' :: s => (readString s).map fun (t, s) => (String.ofList t, s)
  | s => .error (wrongKind "a string" s)

/-- Reads `null` or what `value` reads. -/
def readNullable {α : Type} (value : Reader α) : Reader (Option α) := fun s =>
  match skipSpace s with
  | 'n' :: s => (takeWord "ull".toList s).map fun s => (none, s)
  | s => (value s).map fun (a, s) => (some a, s)

end PipelineLint.Json
