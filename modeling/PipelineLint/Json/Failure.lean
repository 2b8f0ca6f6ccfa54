import PipelineLint.Text.Utf8
import PipelineLint.Text.Quoted

/-!
# Failures of reading JSON

A reader takes text from the front of a list of characters and returns what it read with the rest.
When it fails, it says why and where it stood. Standing places are counted in bytes: a failure knows
the text that was not yet taken, and how many bytes further the complaint points. A complaint about
the next byte, which was only looked at, points one byte further; at the end of the text there is
nothing further to point at.

## Main definitions

* `Json.Code` — why reading failed, with its wording and its `Category`
* `Json.Failure` — a code and the place where the reader stood
* `Json.Error` — a code and a line and column, as shown to people
* `Json.Failure.locate` — the error that a failure on a given text is
-/

namespace PipelineLint.Json

/-- Why a text is not the JSON that was asked for. -/
inductive Code where
  | endInValue
  | endInString
  | endInList
  | endInObject
  | missingColon
  | missingCommaInList
  | missingCommaInObject
  | wrongWord
  | missingValue
  | badEscape
  | badNumber
  | numberTooLarge
  | controlCharacter
  | keyNotString
  | loneSurrogate
  | halfSurrogatePair
  | trailingComma
  | trailingCharacters
  | tooDeep
  /-- A value of another kind than the `expected` one; `found` describes it. -/
  | wrongKind (found expected : String)
  /-- A member that may stand once stands a second time. -/
  | repeatedMember (name : String)
  /-- A message that is neither a string nor a list of strings. -/
  | notMessages
  deriving DecidableEq, Repr

/-- The broad kinds of failure. -/
inductive Category where
  /-- The text is no JSON. -/
  | grammar
  /-- The text is JSON of another shape. -/
  | data
  /-- The text ends too early. -/
  | ending
  deriving DecidableEq, Repr

/-- The kind of a failure. -/
def Code.category : Code → Category
  | .endInValue | .endInString | .endInList | .endInObject => .ending
  | .wrongKind _ _ | .repeatedMember _ | .notMessages => .data
  | _ => .grammar

/-- The wording of a failure. -/
def Code.text : Code → String
  | .endInValue => "EOF while parsing a value"
  | .endInString => "EOF while parsing a string"
  | .endInList => "EOF while parsing a list"
  | .endInObject => "EOF while parsing an object"
  | .missingColon => "expected `:`"
  | .missingCommaInList => "expected `,` or `]`"
  | .missingCommaInObject => "expected `,` or `\x7d`"
  | .wrongWord => "expected ident"
  | .missingValue => "expected value"
  | .badEscape => "invalid escape"
  | .badNumber => "invalid number"
  | .numberTooLarge => "number out of range"
  | .controlCharacter => "control character (\\u0000-\\u001F) found while parsing a string"
  | .keyNotString => "key must be a string"
  | .loneSurrogate => "lone leading surrogate in hex escape"
  | .halfSurrogatePair => "unexpected end of hex escape"
  | .trailingComma => "trailing comma"
  | .trailingCharacters => "trailing characters"
  | .tooDeep => "recursion limit exceeded"
  | .wrongKind found expected => s!"invalid type: {found}, expected {expected}"
  | .repeatedMember name => s!"duplicate field `{name}`"
  | .notMessages => "data did not match any variant of untagged enum Messages"

/-- Why and where a reader stopped. -/
structure Failure where
  code : Code
  /-- The text that was not yet taken. -/
  rest : List Char
  /-- How many bytes into `rest` the complaint points. -/
  ahead : Nat
  deriving DecidableEq, Repr

/-- A complaint about what was taken. -/
def Failure.here (code : Code) (rest : List Char) : Failure := ⟨code, rest, 0⟩

/-- A complaint about the next byte. -/
def Failure.next (code : Code) (rest : List Char) : Failure := ⟨code, rest, 1⟩

/-- Takes a value from the front of a text. -/
abbrev Reader (α : Type) := List Char → Except Failure (α × List Char)

/-- A failure as it is shown: lines count from 1, columns are bytes from the start of the line. -/
structure Error where
  code : Code
  line : Nat
  column : Nat
  deriving DecidableEq, Repr

/-- The error text. -/
def Error.message (e : Error) : String := s!"{e.code.text} at line {e.line} column {e.column}"

/-- The number of bytes of a text. -/
def byteLength (s : List Char) : Nat := s.foldr (fun c n => c.utf8Size + n) 0

/-- The place of a failure that a reader met in `body`. -/
def Failure.locate (body : List Char) (f : Failure) : Error :=
  let taken := byteLength body - byteLength f.rest + f.ahead
  let before := (Text.Utf8.encode body).take taken
  { code := f.code
    line := 1 + before.count 0x0A
    column := (before.reverse.takeWhile (· != 0x0A)).length }

end PipelineLint.Json
