import PipelineLint.Report
import PipelineLint.Session

/-!
# Linting

A file is linted by posting its content to the server's validator and reporting the answer.

Files are linted one after the other. Whatever lints a file may change its own state, print and log.
A file that cannot be linted is logged and counts as invalid; it never keeps the others from being
linted.

## Main definitions

* `Linter` — lints one file
* `Session.lint` — lints a file through a session
* `lintFiles` — lints files in their order
-/

namespace PipelineLint

/-- Lints the file at a path and prints to a sink of any kind. -/
abbrev Linter (σ : Type) (ω : Type := Sink) :=
  String → ω → Action σ (Except ValidationError Bool × ω)

/-! ## One file -/

/-- Where the validator is asked, below the server's base URL. -/
def validatorPath : String := "pipeline-model-converter/validateJenkinsfile"

/-- The form that the validator expects. -/
def submission (content : String) : Http.Form := [("jenkinsfile", content)]

/-- The content of the file that is linted. -/
def readPipeline (files : FileSystem) (path : String) : Except ValidationError String :=
  match files.read path with
  | .error e => .error (.io path e)
  | .ok bytes =>
    match Text.Utf8.decode bytes with
    | .error e => .error (.decode path e)
    | .ok s => .ok (String.ofList s)

namespace Session

/-- The validator's answer to a content. -/
def submit (server : Http.Server) (s : Session) (content : String) :
    Action Traffic (Except ConnectionError String) := do
  match ← s.postForm server validatorPath (submission content) with
  | .error e => pure (.error e)
  | .ok answer =>
    pure ((answer.text server).mapError (.request (s.toEndpoint.target validatorPath)))

/-- The word for a verdict. -/
def verdictWord (valid : Bool) : String := if valid then "valid" else "invalid"

/-- Lints a file through a session. -/
def lint (server : Http.Server) (files : FileSystem) (s : Session) : Linter Traffic :=
  fun path out => do
    match readPipeline files path with
    | .error e => pure (.error e, out)
    | .ok content =>
      match ← s.submit server content with
      | .error e => pure (.error (.submit path e), out)
      | .ok body =>
        let (verdict, out) := report path body out
        match verdict with
        | .error e => pure (.error e, out)
        | .ok valid =>
          Logged.debug s!"{path}: {verdictWord valid}"
          pure (.ok valid, out)

end Session

/-! ## Many files -/

/-- What a verdict counts for; an error is recorded. -/
def judge : Except ValidationError Bool → Logged Bool
  | .ok valid => pure valid
  | .error e => do
    Logged.error e.message
    pure false

/-- Lints files in their order. The answer says whether all of them are valid. -/
def lintFiles {σ ω : Type} (linter : Linter σ ω) : List String → ω → Action σ (Bool × ω)
  | [], out => pure (true, out)
  | path :: more, out => do
    let (verdict, out) ← linter path out
    let valid ← judge verdict
    let (status, out) ← lintFiles linter more out
    pure (valid && status, out)

end PipelineLint
