import PipelineLint.FileSystem
import PipelineLint.Http.Failure
import PipelineLint.Ini

/-!
# Errors

What can go wrong and how it is worded. Configuration and connection errors end a whole run, and
validation errors only the linting of one file.

There is no error for an HTTP client that cannot be made. Two things are asked of a client, whether
to check certificates and how long to wait, and it takes any value of either. So it cannot be made
only where the system has no thread for it or no usable TLS library. Like a lack of memory, that is
left out.

## Main definitions

* `ConfigError` — the server's settings could not be found
* `ConnectionError` — the server could not be talked to
* `ValidationError` — one file could not be linted
* `RunError` — any error that ends a run
-/

namespace PipelineLint

/-- The server's settings could not be found. -/
inductive ConfigError where
  | notFound (paths : List String)
  | read (path : String) (cause : IoError)
  | parse (path : String) (cause : Ini.Error)
  | missingSectionHeader (path : String)
  | missingProfile (profile path : String)
  | missingUrl (profile path : String)
  deriving DecidableEq, Repr

/-- The error text. -/
def ConfigError.message : ConfigError → String
  | .notFound paths =>
    let files := if paths.length = 1 then "file" else "files"
    let list := String.intercalate " or " paths
    s!"Unable to load configuration {files} {list}"
  | .read path cause => s!"Unable to read configuration file {path}: {cause.message}"
  | .parse path cause => s!"Unable to parse configuration file {path}: {cause.message}"
  | .missingSectionHeader path => s!"File contains no section headers: {path}"
  | .missingProfile profile path => s!"Missing profile `{profile}` in configuration file {path}"
  | .missingUrl profile path =>
    s!"Missing `url` key for profile `{profile}` in configuration file {path}"

/-- The error texts of what caused the error, the nearest cause first. -/
def ConfigError.causes : ConfigError → List String
  | .read _ cause => [cause.message]
  | .parse _ cause => [cause.message]
  | _ => []

/-- The server could not be talked to. -/
inductive ConnectionError where
  /-- The exchange that was started for `url`, as it was written, failed. -/
  | request (url : String) (failure : Http.Failure)
  | crumbUnavailable (url : String)
  | closed (url : String)
  deriving DecidableEq, Repr

/-- The error text. -/
def ConnectionError.message : ConnectionError → String
  | .request _ failure => failure.message
  | .crumbUnavailable url =>
    s!"Unable to retrieve crumb from {url}. Crumb issuer is probably blocked."
  | .closed url => s!"Session with {url} is closed"

/-- The server that the error is about. -/
def ConnectionError.url : ConnectionError → String
  | .request url _ => url
  | .crumbUnavailable url => url
  | .closed url => url

/-- One file could not be linted. -/
inductive ValidationError where
  | io (path : String) (cause : IoError)
  | decode (path : String) (cause : Text.Utf8.Malformed)
  | submit (path : String) (cause : ConnectionError)
  | protocol (path reason : String)
  deriving DecidableEq, Repr

/-- The file that the error is about. -/
def ValidationError.path : ValidationError → String
  | .io path _ => path
  | .decode path _ => path
  | .submit path _ => path
  | .protocol path _ => path

/-- The error text. -/
def ValidationError.message : ValidationError → String
  | .io path cause => s!"{path}: {cause.message}"
  | .decode path cause => s!"{path}: {cause.message}"
  | .submit path cause => s!"{path}: {cause.message}"
  | .protocol path reason => s!"{path}: invalid response from Jenkins: {reason}"

/-- The error texts of what caused the error, the nearest cause first. -/
def ValidationError.causes : ValidationError → List String
  | .io _ cause => [cause.message]
  | .decode _ cause => [cause.message]
  | .submit _ cause => [cause.message]
  | .protocol _ _ => []

/-- Any error that ends a run. -/
inductive RunError where
  | config (e : ConfigError)
  | connection (e : ConnectionError)
  | validation (e : ValidationError)
  deriving DecidableEq, Repr

/-- The error text. -/
def RunError.message : RunError → String
  | .config e => e.message
  | .connection e => e.message
  | .validation e => e.message

/-- The error texts of what caused the error, the nearest cause first. -/
def RunError.causes : RunError → List String
  | .config e => e.causes
  | .connection _ => []
  | .validation e => e.causes

end PipelineLint
