import PipelineLint.Diagnostic.Location
import PipelineLint.Diagnostic.Echo

/-!
# Diagnostics

A message of the validator with its severity and its position in the linted file. Diagnostics are
listed by line, and those of one line in the order in which the validator gave them.

## Main definitions

* `Diagnostic` — a positioned message
* `Diagnostic.ofMessage` — the diagnostic that a raw message stands for
* `Diagnostic.sort` — the listing order
* `Diagnostic.render` — one diagnostic as a compiler would print it
-/

namespace PipelineLint

/-- A message of the validator about one place of a file. -/
structure Diagnostic where
  /-- Counted from 1. -/
  line : Nat
  /-- Counted from 1. -/
  column : Nat
  severity : String
  message : String
  deriving DecidableEq, Repr

namespace Diagnostic

/-- The diagnostic that `raw` stands for: its location is taken out first, and the echoed content
is cut from what is left. -/
def ofMessage (severity raw : String) : Diagnostic :=
  let located := Located.ofMessage raw.toList
  { line := located.line
    column := located.column
    severity := severity
    message := String.ofList (collapseEcho located.text) }

/-- The diagnostics by ascending line; equal lines stay in the order given. -/
def sort (ds : List Diagnostic) : List Diagnostic :=
  ds.mergeSort fun a b => a.line ≤ b.line

/-- `d` about the file `path`, in the form `path:line:column: severity: message`. -/
def render (path : String) (d : Diagnostic) : String :=
  s!"{path}:{d.line}:{d.column}: {d.severity}: {d.message}"

end Diagnostic

end PipelineLint
