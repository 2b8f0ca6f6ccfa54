import PipelineLint.Text.Plain

/-!
# Records

What the program tells about its own work, beside its output. An action that may log returns its
value together with its records in order; what has been logged can only grow.

## Main definitions

* `Log.Record` — a level and a text, with the line that shows them
* `Logged` — a value with the records made on the way to it
-/

namespace PipelineLint

namespace Log

/-- How much a record matters. -/
inductive Level where
  | debug
  | warn
  | error
  deriving DecidableEq, Repr

/-- The name that a level is shown by. -/
def Level.name : Level → String
  | .debug => "DEBUG"
  | .warn => "WARN"
  | .error => "ERROR"

/-- One record. -/
structure Record where
  level : Level
  text : String
  deriving DecidableEq, Repr

/-- A record as it is worded. -/
def Record.render (r : Record) : String := s!"{r.level.name}: {r.text}"

/-- What a terminal is given of a record: a line of plain text. A control sequence that the record
leaves open takes the line's end with it. -/
def Record.line (r : Record) : String := Text.plain (r.render ++ "\n")

/-- Whether a record is shown. Unless the user looks for mistakes, only failures are. -/
def Record.isShown (debug : Bool) (r : Record) : Bool := debug || r.level == .error

end Log

/-- A value and the records that were made on the way to it, in order. -/
structure Logged (α : Type) where
  value : α
  records : List Log.Record

namespace Logged

/-- One record and no value. -/
def record (level : Log.Level) (text : String) : Logged Unit := ⟨(), [⟨level, text⟩]⟩

/-- A record for people who look for mistakes. -/
def debug (text : String) : Logged Unit := record .debug text

/-- A record about something questionable. -/
def warn (text : String) : Logged Unit := record .warn text

/-- A record about a failure. -/
def error (text : String) : Logged Unit := record .error text

instance : Monad Logged where
  pure a := ⟨a, []⟩
  bind x f := ⟨(f x.value).value, x.records ++ (f x.value).records⟩

@[simp] theorem value_pure {α : Type} (a : α) : (pure a : Logged α).value = a := rfl

@[simp] theorem records_pure {α : Type} (a : α) : (pure a : Logged α).records = [] := rfl

@[simp] theorem value_bind {α β : Type} (x : Logged α) (f : α → Logged β) :
    (x >>= f).value = (f x.value).value := rfl

@[simp] theorem records_bind {α β : Type} (x : Logged α) (f : α → Logged β) :
    (x >>= f).records = x.records ++ (f x.value).records := rfl

end Logged

end PipelineLint
