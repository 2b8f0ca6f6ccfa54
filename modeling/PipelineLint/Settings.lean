import PipelineLint.CommandLine
import PipelineLint.Profiles

/-!
# Finding the server

The settings come from the environment when it names a server, and otherwise from a profile; they
are never mixed from both. Profiles are read from the file that the command line names, or else from
the two places where such a file is usually kept.

## Main definitions

* `Environment` — what each environment variable holds
* `Settings.ofEnvironment?` — the settings that the environment gives
* `Settings.resolve` — the settings for a run
-/

namespace PipelineLint

/-- What each environment variable holds. -/
abbrev Environment := String → Option String

namespace Settings

/-- The settings that the environment gives, when it names a server. -/
def ofEnvironment? (env : Environment) : Option Settings :=
  match env "JENKINS_URL" with
  | none => none
  | some url =>
    if url.isEmpty then none else some ⟨url, env "JENKINS_USERNAME", env "JENKINS_PASSWORD"⟩

/-- The name of a profile file. -/
def fileName : String := "jenkinsfilelintrc"

/-- `name` below the directory `dir`. -/
def below (dir name : String) : String :=
  if dir.isEmpty || dir.toList.getLast? == some '/' then dir ++ name else dir ++ "/" ++ name

/-- Where profiles are kept: in the working directory, and below the home directory. -/
def defaultPaths (home : Option String) : List String :=
  let here := "." ++ fileName
  match home with
  | none => [here]
  | some dir => [here, below (below dir ".config") fileName]

/-- The profile files that a command line means. -/
def paths (home : Option String) (args : CommandLine.Arguments) : List String :=
  match args.config with
  | some path => [path]
  | none => defaultPaths home

/-- The settings for a run. -/
def resolve (files : FileSystem) (home : Option String) (env : Environment)
    (args : CommandLine.Arguments) : Logged (Except ConfigError Settings) := do
  match ofEnvironment? env with
  | some settings => do
    Logged.debug "Loading configuration from environment variables"
    pure (.ok settings)
  | none => do
    match ← Profiles.load files (paths home args) with
    | .error e => pure (.error e)
    | .ok profiles => pure (profiles.get args.profile)

end Settings

end PipelineLint
