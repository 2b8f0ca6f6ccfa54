import PipelineLint.Http.Charset
import PipelineLint.Http.Url

/-!
# Requests and what comes back

A server is known only by its replies. A reply may depend on everything that was asked before, and
need not be an answer at all.

What the program sees of a server has passed through its HTTP client, and two things are up to that
client: the character sets that it knows, and how often it goes where a server sends it. Both belong
to what a server is here, so that nothing else depends on them.

## Main definitions

* `Http.Request`, `Http.Response` — what is sent to a server and what it answers
* `Http.Reply` — what comes back for a request
* `Http.Server` — the replies to any sequence of requests, and what the client makes of them
* `Http.Received` — the answer at the end of an exchange, and `Received.text`, the text of its body
-/

namespace PipelineLint.Http

/-- A header of a request or an answer. The name is in lower case. -/
structure Header where
  name : String
  value : String
  deriving DecidableEq, Repr

/-- The first value of the header `name`. -/
def headerValue? (name : String) (headers : List Header) : Option String :=
  (headers.find? (·.name = name)).map (·.value)

/-- What is sent to a server. -/
structure Request where
  method : String
  url : Url
  headers : List Header := []
  body : Option String := none
  deriving DecidableEq, Repr

/-- The body of an answer. -/
inductive Body where
  | whole (bytes : List UInt8)
  /-- The body broke off. -/
  | broken (detail : String)
  deriving DecidableEq, Repr

/-- What a server answers. -/
structure Response where
  status : Nat
  headers : List Header := []
  body : Body
  deriving DecidableEq, Repr

/-- What comes back for a request. -/
inductive Reply where
  | response (r : Response)
  /-- The request could not be sent, or the connection ended before an answer. -/
  | unsent (detail : String)
  /-- There was no answer in time. -/
  | timedOut (detail : String)
  deriving DecidableEq, Repr

/-- How many places a client looks for an answer in. The first one counts, too. -/
def maxPlaces : Nat := 10

/-- A server, as it is seen through the client. -/
structure Server where
  /-- What comes back for a request after earlier ones, the oldest first. -/
  reply : List Request → Request → Reply
  /-- How a body with this content type is read, if it is not UTF-8. -/
  decoder? : String → Option Decoder := Charset.decoder?
  /-- How often the client goes where an answer sends it. -/
  hops : Nat := maxPlaces - 1

/-- Whether an answer with this status to a request with this method comes without a body, whatever
it announces. -/
def isBodiless (method : String) (status : Nat) : Bool :=
  method == "HEAD" || status < 200 || status == 204 || status == 304

/-- The answer at the end of an exchange, with the last request that was sent for it. -/
structure Received where
  request : Request
  response : Response
  deriving DecidableEq, Repr

/-- How the answer's body is read, if it is not UTF-8. -/
def Received.decoder? (server : Server) (r : Received) : Option Decoder :=
  (headerValue? "content-type" r.response.headers).bind server.decoder?

/-- The text of the answer's body. -/
def Received.text (server : Server) (r : Received) : Except Failure String :=
  if isBodiless r.request.method r.response.status then .ok ""
  else
    match r.response.body with
    | .broken detail => .error (.brokenBody detail)
    | .whole bytes => .ok (String.ofList (decodeBody (r.decoder? server) bytes))

end PipelineLint.Http
