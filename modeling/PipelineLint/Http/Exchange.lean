import PipelineLint.Http.Authorization
import PipelineLint.Http.Form

/-!
# Exchanges

An exchange starts with one request and ends with one answer or a failure. On the way the server may
send the request on to other places; it is followed there a limited number of times.

How long an answer is waited for is taken to end before the clock does, which shows less than 2^63
seconds. Nothing is said here about longer spans. A timeout of 64 bits can be one, and the client
stops the program when it is asked to wait that long.

What bears credentials is not taken to another place. An answer that says that something
moved elsewhere makes the next request a plain one without a body, unless its status asks for the
same request again.

## Main definitions

* `Http.Request.build` — the request that is meant, or why there can be none
* `Http.Request.obstacle?` — why a request cannot be sent
* `Http.Request.sentOn?` — the request that an answer asks for in place of an earlier one
* `Http.exchange` — the requests of an exchange and its outcome
-/

namespace PipelineLint.Http

/-! ## Headers -/

/-- Whether `c` may stand in the name of a header. -/
def isNameChar (c : Char) : Bool := c.isAlphanum || "!#$%&'*+-.^_\x60|~".toList.contains c

/-- Whether `c` may stand in the value of a header. -/
def isValueChar (c : Char) : Bool := c == '\t' || !isControl c

/-- The header with a name and a value, when both can be sent. -/
def Header.make (name value : String) : Except Failure Header :=
  if name.isEmpty || !name.toList.all isNameChar then .error .badHeaderName
  else if !value.toList.all isValueChar then .error .badHeaderValue
  else .ok ⟨String.ofList (name.toList.map Char.toLower), value⟩

/-- Headers without those of the given names. -/
def withoutHeaders (names : List String) (headers : List Header) : List Header :=
  headers.filter fun h => !names.contains h.name

/-! ## Building -/

/-- How long the URL of a request may be. -/
def maxUrlLength : Nat := 65534

/-- Whether a request line can hold a URL. -/
def Url.isSendable (u : Url) : Bool :=
  !u.host.any ['"', '\x60', '\x7b', '\x7d'].contains && u.render.utf8ByteSize ≤ maxUrlLength

/-- The credentials that a URL holds, and the URL that is asked for. -/
def Url.splitCredentials (u : Url) : Option Credentials × Url :=
  match u.credentials? with
  | some c => (some c, u.withoutUser)
  | none => (none, u)

/-- Puts an encoded form into a request. -/
def Request.withForm (r : Request) (form : Form) : Request :=
  { r with
    headers := withoutHeaders ["content-type"] r.headers ++ [⟨"content-type", Form.contentType⟩]
    body := some (String.ofList form.encode) }

/-- The request with a method for a URL, on behalf of a user, with a form as its body. -/
def Request.build (method url : String) (credentials : Option Credentials)
    (headers : List (String × String)) (form : Option Form) : Except Failure Request :=
  match Url.parse url.toList with
  | .error fault => .error (.badUrl fault)
  | .ok url =>
    if url.host.isEmpty then .error (.badScheme url.render)
    else
      let (user, url) := url.splitCredentials
      match headers.mapM fun (name, value) => Header.make name value with
      | .error failure => .error failure
      | .ok headers =>
        let access := (user.toList ++ credentials.toList).map authorization
        let request : Request := { method, url, headers := access ++ headers }
        .ok (form.elim request request.withForm)

/-- What keeps a request from being sent. -/
def Request.obstacle? (r : Request) : Option Failure :=
  if !r.url.isRequestable then some (.badScheme r.url.render)
  else if !r.url.isSendable then some (.notSendable r.url.render)
  else none

/-! ## Following -/

/-- Whether a status says that the answer is found by a plain request elsewhere. -/
def isMoved (status : Nat) : Bool := status == 301 || status == 302 || status == 303

/-- Whether a status asks for the same request elsewhere. -/
def isRepeated (status : Nat) : Bool := status == 307 || status == 308

/-- Where an answer sends a request on to. -/
def destination? (r : Request) (a : Response) : Option Url := do
  let location ← headerValue? "location" a.headers
  let url ← (Url.resolve r.url location.toList).toOption
  if url.isSendable then some url else none

/-- Whether two URLs name the same host and the same service on it. -/
def isSamePlace (u v : Url) : Bool := u.host == v.host && u.effectivePort == v.effectivePort

/-- What tells the next server where a request comes from. Nothing is told about a secure place to
one that is not. -/
def referer (previous next : Url) : List Header :=
  if previous.isSecure && next.scheme == "http".toList then []
  else [⟨"referer", { previous.withoutUser with fragment := none }.render⟩]

/-- What must not be told to another place. -/
def confidential : List String :=
  ["authorization", "cookie", "cookie2", "proxy-authorization", "www-authenticate"]

/-- What says something about a body. -/
def aboutBody : List String :=
  ["transfer-encoding", "content-encoding", "content-type", "content-length"]

/-- The request that goes to `url` in place of `r`. -/
def Request.moveTo (r : Request) (url : Url) : Request :=
  let told := referer r.url url
  let headers := if told.isEmpty then r.headers else withoutHeaders ["referer"] r.headers ++ told
  { r with
    url
    headers := if isSamePlace url r.url then headers else withoutHeaders confidential headers }

/-- A request that asks for something and does not change it. -/
def Request.plain (r : Request) : Request :=
  { r with
    method := if r.method = "HEAD" then "HEAD" else "GET"
    headers := withoutHeaders aboutBody r.headers
    body := none }

/-- The request that an answer asks for in place of an earlier one. -/
def Request.sentOn? (r : Request) (a : Response) : Option Request :=
  if isMoved a.status then (destination? r a).map r.plain.moveTo
  else if isRepeated a.status then (destination? r a).map r.moveTo
  else none

/-- Sends a request, and the requests that it is sent on as, at most `hops` of them. `past` are the
requests that the server saw before. -/
def follow (server : Server) : Nat → List Request → Request → List Request × Except Failure Received
  | hops, past, r =>
    match server.reply past r with
    | .unsent detail => ([r], .error (.unsent r.url.render detail))
    | .timedOut detail => ([r], .error (.timedOut r.url.render detail))
    | .response a =>
      match r.sentOn? a with
      | none => ([r], .ok ⟨r, a⟩)
      | some next =>
        match hops with
        | 0 => ([r], .error (.tooManyRedirects r.url.render))
        | hops + 1 =>
          if next.url.isRequestable then
            let (sent, outcome) := follow server hops (past ++ [r]) next
            (r :: sent, outcome)
          else ([r], .error (.badScheme next.url.render))

/-- An answer whose status reports an error is a failure. -/
def judgeStatus (r : Received) : Except Failure Received :=
  if isClientError r.response.status || isServerError r.response.status then
    .error (.status r.response.status r.request.url.render)
  else .ok r

/-- The requests that are sent when a request is meant, and the answer that they lead to, which is
waited for `patience` milliseconds. Nothing is sent when the request could not be built, or when
nobody waits for an answer. -/
def exchange (server : Server) (patience : Nat) (past : List Request) :
    Except Failure Request → List Request × Except Failure Received
  | .error failure => ([], .error failure)
  | .ok r =>
    if patience = 0 then ([], .error (.timedOut r.url.render timedOutDetail))
    else
      match r.obstacle? with
      | some failure => ([], .error failure)
      | none =>
        let (sent, outcome) := follow server server.hops past r
        (sent, outcome.bind judgeStatus)

end PipelineLint.Http
