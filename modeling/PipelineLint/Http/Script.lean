import PipelineLint.Http.Message

/-!
# Prepared servers

A server that answers the requests that reach it with prepared answers, one after the other, and has
nothing to be found when they are used up. Requests over TLS and requests for other places do not
reach it.

## Main definitions

* `Http.Prepared` — one prepared answer
* `Http.Script` — a server with its prepared answers
* `Http.Script.server` — what comes back from it
-/

namespace PipelineLint.Http

/-- What a prepared answer does. -/
inductive Manner where
  | answer
  /-- Says nothing, until nobody waits any more. -/
  | silence
  /-- Ends the connection without an answer. -/
  | hangUp
  /-- Announces more of a body than it sends. -/
  | cutShort
  deriving DecidableEq, Repr

/-- One prepared answer. -/
structure Prepared where
  status : Nat := 200
  headers : List Header := []
  body : List UInt8 := []
  manner : Manner := .answer
  deriving DecidableEq, Repr

/-- A server with its prepared answers. -/
structure Script where
  host : List Char
  portNumber : Nat
  /-- Whether connections are accepted at all. -/
  isListening : Bool := true
  answers : List Prepared
  deriving DecidableEq, Repr

namespace Script

/-- What is said about a connection that failed. -/
def detail : String := "..."

/-- Whether a request reaches the server. -/
def isReached (s : Script) (r : Request) : Bool :=
  s.isListening && !r.url.isSecure && r.url.host == s.host
    && r.url.effectivePort == some s.portNumber

/-- What is found when the prepared answers are used up. -/
def nothing : Prepared := { status := 404 }

/-- Whether a status only announces another answer, which a prepared server never sends. -/
def isProvisional (status : Nat) : Bool := status < 200 && status != 101

/-- What comes back as a prepared answer. -/
def reply (p : Prepared) : Reply :=
  match p.manner with
  | .silence => .timedOut detail
  | .hangUp => .unsent detail
  | .answer =>
    if isProvisional p.status then .unsent detail
    else .response ⟨p.status, p.headers, .whole p.body⟩
  | .cutShort =>
    if isProvisional p.status then .unsent detail
    else .response ⟨p.status, p.headers, .broken detail⟩

/-- What comes back from the server. The number of earlier requests that reached it tells which
answer is next. -/
def server (s : Script) : Server where
  reply past r :=
    if s.isReached r then
      reply ((s.answers[(past.filter s.isReached).length]?).getD nothing)
    else .unsent detail

end Script

end PipelineLint.Http
