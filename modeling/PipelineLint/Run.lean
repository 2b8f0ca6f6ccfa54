import PipelineLint.Lint
import PipelineLint.Settings

/-!
# Whole runs

A run finds the server, opens one session and lints all files of the command line through it.
Without settings or without a session no file is linted at all.

## Main definitions

* `run` — does what a command line asks for
* `exitStatus` — tells the caller of the program how a run went
* `program` — the whole program, from its command line to what it leaves behind
-/

namespace PipelineLint

/-- What a run finds around it. -/
structure Surroundings where
  files : FileSystem
  env : Environment
  /-- The home directory. -/
  home : Option String
  server : Http.Server

/-- Lints all files through one session with the server that `settings` name. -/
def runOn (around : Surroundings) (args : CommandLine.Arguments) (settings : Settings)
    (out : Sink) : Action Traffic (Except RunError Bool × Sink) := do
  let credentials := Credentials.ofParts? settings.username settings.password
  let timeout := 1000 * args.timeout.toNat
  match ← Session.connect around.server settings.url credentials args.insecure timeout with
  | .error e => pure (.error (.connection e), out)
  | .ok session => do
    let (status, out) ← lintFiles (session.lint around.server around.files) args.files out
    let _ ← session.close
    pure (.ok status, out)

/-- Does what a command line asks for. The answer says whether all files are valid. -/
def run (around : Surroundings) (args : CommandLine.Arguments) (out : Sink) :
    Action Traffic (Except RunError Bool × Sink) := do
  match ← Settings.resolve around.files around.home around.env args with
  | .error e => pure (.error (.config e), out)
  | .ok settings => runOn around args settings out

/-- The status that the program ends with: zero when all files are valid. An error is recorded. -/
def exitStatus : Except RunError Bool → Logged Nat
  | .ok valid => pure (if valid then 0 else 1)
  | .error e => do
    Logged.error e.message
    pure 1

/-- What a program leaves behind. -/
structure Ending where
  status : Nat
  out : List UInt8 := []
  /-- The lines for people, beside the output. -/
  notes : String := ""
  deriving DecidableEq, Repr

/-- The status of a command line that cannot be understood. -/
def usageStatus : Nat := 2

/-- Does what a command line asks for and maps the outcome to a status. -/
def runToStatus (around : Surroundings) (args : CommandLine.Arguments) :
    Action Traffic (Except RunError Bool × Sink × Nat) := do
  let (result, out) ← run around args {}
  let status ← exitStatus result
  pure (result, out, status)

/-- What the program leaves behind, and its traffic. Asked for help or for its version, it prints
that and nothing else. -/
def program (around : Surroundings) (words : List String) : Ending × Traffic :=
  match CommandLine.parse words with
  | .error e =>
    if e.isRequest then ({ status := 0, out := Text.Utf8.encode e.shown.toList }, {})
    else ({ status := usageStatus, notes := e.shown ++ "\n" }, {})
  | .ok args =>
    let done := (runToStatus around args).run {}
    let ((_, out, status), traffic) := done.value
    let notes := String.join ((done.records.filter (·.isShown args.debug)).map (·.line))
    ({ status, out := out.written, notes }, traffic)

end PipelineLint
