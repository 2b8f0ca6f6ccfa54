import PipelineLint.Answer
import PipelineLint.Diagnostic
import PipelineLint.Error
import PipelineLint.Sink

/-!
# Reports

What the validator's answer says about a file: its diagnostics are printed, one on a line and in
their listing order, and the result decides whether the file is valid. The diagnostics are printed
even when the result is missing.

## Main definitions

* `report` — prints the diagnostics of an answer and gives the verdict
-/

namespace PipelineLint

/-- The result of a valid file. -/
def successResult : String := "success"

/-- The diagnostics of an answer in their listing order. -/
def Answer.diagnostics (a : Answer) : List Diagnostic :=
  Diagnostic.sort (a.messages.map fun (severity, raw) => Diagnostic.ofMessage severity raw)

/-- Prints each diagnostic on a line of its own. The answer is `false`, and the rest stays
unprinted, when a line does not fit. -/
def printDiagnostics (path : String) : List Diagnostic → Sink → Bool × Sink
  | [], out => (true, out)
  | d :: ds, out =>
    match out.writeText (d.render path ++ "\n") with
    | (true, out) => printDiagnostics path ds out
    | (false, out) => (false, out)

/-- Prints what the validator says in `body` about the file `path`, and gives the verdict. -/
def report (path body : String) (out : Sink) : Except ValidationError Bool × Sink :=
  match Answer.parse body with
  | .error e => (.error (.protocol path e.message), out)
  | .ok answer =>
    match printDiagnostics path answer.diagnostics out with
    | (false, out) => (.error (.io path .sinkFull), out)
    | (true, out) =>
      match answer.result with
      | some result => (.ok (result == successResult), out)
      | none => (.error (.protocol path "missing `data.result`"), out)

end PipelineLint
