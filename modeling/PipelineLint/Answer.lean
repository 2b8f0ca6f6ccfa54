import PipelineLint.Json.Value
import PipelineLint.Json.Skip

/-!
# The validator's answer

The answer is an object with one interesting member, `data`, itself an object with the members
`result` and `errors`. Each of them may be missing or `null`, and each may stand once. Both objects
may also be written as lists of their members' values in this order, of which the last may be left
out. Members of other names are skipped.

`errors` is a list of entries. An entry maps severities to messages, keeps the order and the
repetitions of its severities, and gives for each a single message or a list of messages.

## Main definitions

* `Answer` — what the validator says about a file
* `Answer.messages` — all messages with their severities, in the order of the answer
* `Answer.parse` — the answer that a text holds
-/

namespace PipelineLint

/-- The messages under one severity. -/
inductive Messages where
  | one (message : String)
  | many (messages : List String)
  deriving DecidableEq, Repr

/-- The messages as a list. -/
def Messages.toList : Messages → List String
  | .one message => [message]
  | .many messages => messages

/-- One element of an answer's `errors`. -/
abbrev Entry := List (String × Messages)

/-- What the validator says about a file. What is missing and what is `null` are the same. -/
structure Answer where
  result : Option String
  errors : List Entry
  deriving DecidableEq, Repr

namespace Answer

/-- The answer that says nothing. -/
def empty : Answer := ⟨none, []⟩

/-- All messages with their severities, in the order of the answer. -/
def messages (a : Answer) : List (String × String) :=
  a.errors.flatMap fun entry =>
    entry.flatMap fun (severity, messages) =>
      messages.toList.map fun message => (severity, message)

/-! ## Reading -/

open Json

/-- The messages that a value stands for. -/
def messagesOfValue? : Value → Option Messages
  | .string s => some (.one s)
  | .list vs => (strings? vs).map .many
  | _ => none
where
  /-- The values as strings, when all of them are. -/
  strings? : List Value → Option (List String)
    | [] => some []
    | .string s :: vs => (strings? vs).map (s :: ·)
    | _ :: _ => none

/-- Four lists and objects are open around the messages of an entry. -/
def messageDepth : Nat := depthLimit - 4

/-- Reads the messages of one severity. The value is read whole before it is judged. -/
def addMessages (known : Entry) (severity : String) : Reader Entry := fun s =>
  match takeColon s with
  | .error f => .error f
  | .ok s =>
    match readValue messageDepth s with
    | .error f => .error f
    | .ok (v, s) =>
      match messagesOfValue? v with
      | some messages => .ok (known ++ [(severity, messages)], s)
      | none => .error (.here .notMessages (pastBrace s))

/-- Reads one entry. -/
def readEntry : Reader Entry := fun s =>
  match skipSpace s with
  | [] => .error (.next .endInValue [])
  | '\x7b' :: s => readMembers addMessages [] s
  | s => .error (wrongKind "an object mapping severities to messages" s)

/-- Reads the entries. -/
def readErrors : Reader (List Entry) := fun s =>
  match skipSpace s with
  | [] => .error (.next .endInValue [])
  | '[' :: s => readElements readEntry s
  | s => .error (wrongKind "a sequence" s)

/-- Reads a structure in either of its spellings: the values alone in a list, or named members in an
object. -/
def readStructure {α : Type} (name : String) (values members : Reader α) : Reader α := fun s =>
  match skipSpace s with
  | [] => .error (.next .endInValue [])
  | '[' :: s =>
    match values s with
    | .error f => .error f
    | .ok (a, s) => (closeList s).map fun s => (a, s)
  | '\x7b' :: s => members s
  | s => .error (wrongKind s!"struct {name}" s)

/-- Reads the next value of a structure spelled as a list; a value that is left out is `null`. -/
def readPlace {α : Type} (first : Bool) (value : Reader α) : Reader (Option α) := fun s =>
  match nextElement first s with
  | .error f => .error f
  | .ok (.done rest) => .ok (none, rest)
  | .ok (.more rest) => readNullable value rest

/-- Reads a member that may stand once and is not known yet. -/
def readOnce {α : Type} (name : String) (known : Option (Option α)) (value : Reader α) :
    Reader (Option (Option α)) := fun s =>
  match known with
  | some _ => .error (.here (.repeatedMember name) (pastBrace s))
  | none =>
    match takeColon s with
    | .error f => .error f
    | .ok s => (readNullable value s).map fun (a, s) => (some a, s)

/-- Skips the value of a member that means nothing here. -/
def skipMember {σ : Type} (known : σ) : Reader σ := fun s =>
  match takeColon s with
  | .error f => .error f
  | .ok s => (skipValue s).map fun s => (known, s)

/-- What is known of the members of `data`; a member that has not come yet is `none`. -/
structure DataMembers where
  result : Option (Option String) := none
  errors : Option (Option (List Entry)) := none

/-- The members as an answer. -/
def DataMembers.toAnswer (m : DataMembers) : Answer :=
  ⟨m.result.join, m.errors.join.getD []⟩

/-- Reads one member of `data` behind its name. -/
def dataMember (known : DataMembers) (name : String) : Reader DataMembers := fun s =>
  if name = "result" then
    (readOnce name known.result readText s).map fun (r, s) => ({ known with result := r }, s)
  else if name = "errors" then
    (readOnce name known.errors readErrors s).map fun (e, s) => ({ known with errors := e }, s)
  else skipMember known s

/-- Reads `data` spelled as a list. -/
def dataValues : Reader Answer := fun s =>
  match readPlace true readText s with
  | .error f => .error f
  | .ok (result, s) =>
    (readPlace false readErrors s).map fun (errors, s) => (⟨result, errors.getD []⟩, s)

/-- Reads `data`. -/
def readData : Reader Answer :=
  readStructure "ValidationData" dataValues fun s =>
    (readMembers dataMember {} s).map fun (m, s) => (m.toAnswer, s)

/-- Reads one member of the whole answer behind its name. -/
def answerMember (known : Option (Option Answer)) (name : String) :
    Reader (Option (Option Answer)) := fun s =>
  if name = "data" then readOnce name known readData s else skipMember known s

/-- Reads the whole answer. -/
def read : Reader Answer :=
  readStructure "ValidationResponse"
    (fun s => (readPlace true readData s).map fun (data, s) => (data.getD empty, s))
    (fun s => (readMembers answerMember none s).map fun (data, s) => (data.join.getD empty, s))

/-- The answer that `body` holds: one value between white space. -/
def parse (body : String) : Except Json.Error Answer :=
  match read body.toList with
  | .error f => .error (f.locate body.toList)
  | .ok (answer, s) =>
    match skipSpace s with
    | [] => .ok answer
    | s => .error ((Failure.next .trailingCharacters s).locate body.toList)

end Answer

end PipelineLint
