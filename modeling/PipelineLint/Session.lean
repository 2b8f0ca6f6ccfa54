import PipelineLint.Credentials
import PipelineLint.Crumb
import PipelineLint.Notice
import PipelineLint.Traffic

/-!
# Sessions

A session is bound to one server. It is opened by fetching the crumb, which never changes
afterwards, and every form that it posts bears that crumb. Once closed it sends nothing any more.

## Main definitions

* `Endpoint` — a server, and how it is asked
* `Session` — an open or closed session, with its crumb
* `Session.connect` — opens a session
* `Session.request`, `Session.postForm` — ask the server
* `Session.close` — ends a session
-/

namespace PipelineLint

/-- A server, and how it is asked. -/
structure Endpoint where
  /-- The base URL as it was given, without slashes at its end. -/
  url : String
  credentials : Option Credentials := none
  /-- Whether certificates are left unchecked. -/
  insecure : Bool := false
  /-- How long an answer is waited for, in milliseconds. The wait is taken to end before the clock
  does. -/
  timeout : Nat := 30000
  deriving DecidableEq, Repr

/-- An open or closed session. -/
structure Session extends Endpoint where
  crumb : Crumb
  isClosed : Bool := false
  deriving DecidableEq, Repr

namespace Endpoint

/-- A base URL without slashes at its end. -/
def trimUrl (url : String) : String :=
  String.ofList (url.toList.reverse.dropWhile (· == '/')).reverse

/-- The URL of `path` on a server. -/
def target (e : Endpoint) (path : String) : String := e.url ++ "/" ++ path

/-- Sends a request for `path` and waits for the answer. The request is recorded before anything
else is done. -/
def send (server : Http.Server) (e : Endpoint) (method path : String) (form : Option Http.Form)
    (headers : List (String × String)) : Action Traffic (Except ConnectionError Http.Received) := do
  let target := e.target path
  Logged.debug s!"{method} {target}"
  let traffic ← get
  if e.insecure then
    Notice.give traffic.isSilenced target
  let built := Http.Request.build method target e.credentials headers form
  let (sent, outcome) := Http.exchange server e.timeout traffic.requests built
  set (traffic.add { method, target, headers, form, sent })
  pure (outcome.mapError (.request target))

/-- Asks for the crumb. -/
def fetchCrumb (server : Http.Server) (e : Endpoint) :
    Action Traffic (Except ConnectionError Crumb) := do
  match ← e.send server "GET" Crumb.issuerPath none [] with
  | .error failure => pure (.error failure)
  | .ok answer =>
    match answer.text server with
    | .error failure => pure (.error (.request e.url failure))
    | .ok text => pure (Crumb.parse text e.url)

end Endpoint

namespace Session

/-- Opens a session. The client for it can be made, whatever the arguments are. -/
def connect (server : Http.Server) (url : String) (credentials : Option Credentials)
    (insecure : Bool) (timeout : Nat) : Action Traffic (Except ConnectionError Session) := do
  let e : Endpoint := { url := Endpoint.trimUrl url, credentials, insecure, timeout }
  if insecure then
    let traffic ← get
    let isSilenced ← Notice.suppress traffic.isSilenced
    set { traffic with isSilenced }
  match ← e.fetchCrumb server with
  | .error failure => pure (.error failure)
  | .ok crumb =>
    Logged.debug s!"Using crumb header {crumb.name} for {e.url}"
    pure (.ok { e with crumb })

/-- Sends a request for `path`. -/
def request (server : Http.Server) (s : Session) (method path : String) (form : Option Http.Form)
    (headers : List (String × String)) : Action Traffic (Except ConnectionError Http.Received) :=
  if s.isClosed then pure (.error (.closed s.url))
  else s.toEndpoint.send server method path form headers

/-- Posts a form with the crumb. -/
def postForm (server : Http.Server) (s : Session) (path : String) (form : Http.Form) :
    Action Traffic (Except ConnectionError Http.Received) :=
  s.request server "POST" path (some form) [(s.crumb.name, s.crumb.value)]

/-- Ends a session. Only the first time this is recorded. A session that is given up is closed,
too. -/
def close (s : Session) : Logged Session := do
  if !s.isClosed then
    Logged.debug s!"Closed session with {s.url}"
  pure { s with isClosed := true }

end Session

end PipelineLint
