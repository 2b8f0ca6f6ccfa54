import PipelineLint.Http.Exchange
import PipelineLint.Log

/-!
# Traffic

What a process remembers about its dealings with servers: the exchanges that it started, and whether
it still warns about unchecked certificates. All sessions of a process share it. An action on a
state may also make records.

## Main definitions

* `Action` — a computation with a state and records
* `Exchange` — one request of the program, with everything that was sent for it
* `Traffic` — what a process remembers
-/

namespace PipelineLint

/-- A computation that may change a state of type `σ` and make records. -/
abbrev Action (σ : Type) := StateT σ Logged

/-- One request of the program, and what was sent for it. -/
structure Exchange where
  method : String
  /-- The URL as it was put together. -/
  target : String
  headers : List (String × String)
  form : Option Http.Form
  /-- Nothing when no request could be built, and more than one request when the server sent it
  on. -/
  sent : List Http.Request
  deriving DecidableEq, Repr

/-- What a process remembers about its dealings with servers. -/
structure Traffic where
  /-- Whether the notice about unchecked certificates is silenced. -/
  isSilenced : Bool := false
  /-- In the order in which they were started. -/
  exchanges : List Exchange := []
  deriving DecidableEq, Repr

namespace Traffic

/-- All requests that were sent, the oldest first. -/
def requests (t : Traffic) : List Http.Request := t.exchanges.flatMap (·.sent)

/-- The traffic after one more exchange. -/
def add (t : Traffic) (e : Exchange) : Traffic := { t with exchanges := t.exchanges ++ [e] }

end Traffic

end PipelineLint
