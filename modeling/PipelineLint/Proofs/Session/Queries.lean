import PipelineLint.Session

/-!
# What a session asks for

An exchange is started for a query: a method, a URL, headers and perhaps a form. What is sent for
it, and what comes of it, depends on the server and on what the server was asked before, and not on
who asks. So every operation of a session has one description: the query that it starts an exchange
for, and what it makes of the outcome.

## Loudness

Beside its traffic an operation makes records. None of those made here is about a failure: a failure
is the operation's value, and whoever receives it decides whether it is worth a record.

## Main definitions

* `Query` — what an exchange is started for
* `Endpoint.answer` — what is sent for a query, and what comes of it
* `Endpoint.SentFor` — exchanges that sent exactly what their queries ask for
* `Endpoint.issued` — the crumb that a server gives out
* `Logged.IsQuiet` — no record is about a failure

## Main results

* `Endpoint.value_send`, `Endpoint.value_fetchCrumb`, `Session.value_connect` — what each operation
  leaves behind
* `Session.issued_of_connect` — what an open session is
* `Endpoint.toList_trimUrl`, `Endpoint.getLast?_trimUrl` — the base URL of a session
-/

namespace PipelineLint

/-! ## Quiet actions -/

namespace Logged

variable {α β : Type}

@[ext] theorem ext {x y : Logged α} (hvalue : x.value = y.value)
    (hrecords : x.records = y.records) : x = y := by
  cases x
  cases y
  cases hvalue
  cases hrecords
  rfl

/-- No record is about a failure. -/
def IsQuiet (x : Logged α) : Prop := ∀ r ∈ x.records, r.level ≠ .error

theorem isQuiet_pure (a : α) : (pure a : Logged α).IsQuiet := by simp [IsQuiet]

theorem isQuiet_debug (text : String) : (debug text).IsQuiet := by
  simp [IsQuiet, debug, record]

theorem isQuiet_warn (text : String) : (warn text).IsQuiet := by
  simp [IsQuiet, warn, record]

theorem IsQuiet.bind {x : Logged α} {f : α → Logged β} (hx : x.IsQuiet)
    (hf : (f x.value).IsQuiet) : (x >>= f).IsQuiet := by
  intro r hr
  rcases List.mem_append.mp hr with h | h
  · exact hx r h
  · exact hf r h

end Logged

namespace Action

open Logged

variable {σ α β : Type}

@[simp] theorem value_pure (a : α) (t : σ) : ((pure a : Action σ α).run t).value = (a, t) := rfl

@[simp] theorem value_lift (x : Logged α) (t : σ) :
    ((liftM x : Action σ α).run t).value = (x.value, t) := rfl

@[simp] theorem value_bind (x : Action σ α) (f : α → Action σ β) (t : σ) :
    ((x >>= f).run t).value = ((f (x.run t).value.1).run (x.run t).value.2).value := rfl

@[simp] theorem value_get (t : σ) : ((get : Action σ σ).run t).value = (t, t) := rfl

@[simp] theorem value_set (t t' : σ) : ((set t' : Action σ Unit).run t).value = ((), t') := rfl

@[simp] theorem records_pure (a : α) (t : σ) : ((pure a : Action σ α).run t).records = [] := rfl

@[simp] theorem records_lift (x : Logged α) (t : σ) :
    ((liftM x : Action σ α).run t).records = x.records :=
  List.append_nil _

@[simp] theorem records_bind (x : Action σ α) (f : α → Action σ β) (t : σ) :
    ((x >>= f).run t).records =
      (x.run t).records ++ ((f (x.run t).value.1).run (x.run t).value.2).records := rfl

@[simp] theorem records_get (t : σ) : ((get : Action σ σ).run t).records = [] := rfl

@[simp] theorem records_set (t t' : σ) : ((set t' : Action σ Unit).run t).records = [] := rfl

theorem isQuiet_pure (a : α) (t : σ) : ((pure a : Action σ α).run t).IsQuiet :=
  Logged.isQuiet_pure _

theorem isQuiet_lift {x : Logged α} (hx : x.IsQuiet) (t : σ) :
    ((liftM x : Action σ α).run t).IsQuiet :=
  hx.bind (Logged.isQuiet_pure _)

theorem isQuiet_bind {x : Action σ α} {f : α → Action σ β} {t : σ} (hx : (x.run t).IsQuiet)
    (hf : ((f (x.run t).value.1).run (x.run t).value.2).IsQuiet) : ((x >>= f).run t).IsQuiet := by
  rw [StateT.run_bind]
  exact hx.bind hf

end Action

/-! ## Queries -/

section

variable {α ε ε' : Type} (f : ε → ε')

@[simp] theorem mapError_ok (a : α) : (Except.ok a : Except ε α).mapError f = .ok a := rfl

@[simp] theorem mapError_error (e : ε) :
    (Except.error e : Except ε α).mapError f = .error (f e) := rfl

end

/-- What an exchange is started for. -/
structure Query where
  method : String
  target : String
  headers : List (String × String) := []
  form : Option Http.Form := none
  deriving DecidableEq, Repr

/-- What the exchange was started for. -/
def Exchange.query (e : Exchange) : Query := ⟨e.method, e.target, e.headers, e.form⟩

namespace Endpoint

variable (server : Http.Server) (e : Endpoint)

/-- What is sent for a query after the requests `past`, and what comes of it. -/
def answer (past : List Http.Request) (q : Query) :
    List Http.Request × Except Http.Failure Http.Received :=
  Http.exchange server e.timeout past
    (Http.Request.build q.method q.target e.credentials q.headers q.form)

/-- The exchange that is started for a query after the requests `past`. -/
def exchangeFor (past : List Http.Request) (q : Query) : Exchange :=
  ⟨q.method, q.target, q.headers, q.form, (e.answer server past q).1⟩

@[simp] theorem query_exchangeFor (past : List Http.Request) (q : Query) :
    (e.exchangeFor server past q).query = q := rfl

/-- Each of the exchanges sent exactly what its query asks for, when the first of them came after
the requests `past`. -/
def SentFor : List Http.Request → List Exchange → Prop
  | _, [] => True
  | past, x :: more => x = e.exchangeFor server past x.query ∧ SentFor (past ++ x.sent) more

theorem sentFor_append {past : List Http.Request} {first more : List Exchange}
    (hfirst : e.SentFor server past first)
    (hmore : e.SentFor server (past ++ first.flatMap (·.sent)) more) :
    e.SentFor server past (first ++ more) := by
  induction first generalizing past with
  | nil => simpa using hmore
  | cons x first ih =>
    refine ⟨hfirst.1, ih hfirst.2 ?_⟩
    rwa [List.append_assoc, ← List.flatMap_cons]

theorem value_send (method path : String) (form : Option Http.Form)
    (headers : List (String × String)) (t : Traffic) :
    ((e.send server method path form headers).run t).value =
      let q : Query := ⟨method, e.target path, headers, form⟩
      ((e.answer server t.requests q).2.mapError (.request q.target),
        t.add (e.exchangeFor server t.requests q)) := by
  rw [send]
  cases e.insecure <;> rfl

theorem records_send (method path : String) (form : Option Http.Form)
    (headers : List (String × String)) (t : Traffic) :
    ((e.send server method path form headers).run t).records =
      ⟨.debug, s!"{method} {e.target path}"⟩ ::
        if e.insecure then (Notice.give t.isSilenced (e.target path)).records else [] := by
  rw [send]
  cases e.insecure with
  | false => rfl
  | true => simp [Logged.debug, Logged.record]

theorem isQuiet_send (method path : String) (form : Option Http.Form)
    (headers : List (String × String)) (t : Traffic) :
    ((e.send server method path form headers).run t).IsQuiet := by
  have hgive : (Notice.give t.isSilenced (e.target path)).IsQuiet := by
    rw [Notice.give]
    split
    · exact Logged.isQuiet_warn _
    · exact Logged.isQuiet_pure _
  intro r hr
  rw [records_send, List.mem_cons] at hr
  rcases hr with rfl | hr
  · simp
  · split at hr
    · exact hgive r hr
    · cases hr

/-! ## The crumb -/

/-- The query for the crumb. -/
def crumbQuery : Query := { method := "GET", target := e.target Crumb.issuerPath }

/-- The crumb that the server gives out after the requests `past`, or why there is none. -/
def issued (past : List Http.Request) : Except ConnectionError Crumb :=
  match (e.answer server past e.crumbQuery).2 with
  | .error failure => .error (.request e.crumbQuery.target failure)
  | .ok received =>
    match received.text server with
    | .error failure => .error (.request e.url failure)
    | .ok text => Crumb.parse text e.url

theorem value_fetchCrumb (t : Traffic) :
    ((e.fetchCrumb server).run t).value =
      (e.issued server t.requests, t.add (e.exchangeFor server t.requests e.crumbQuery)) := by
  rw [fetchCrumb, issued]
  simp only [Action.value_bind, value_send, crumbQuery]
  cases (e.answer server t.requests ⟨"GET", e.target Crumb.issuerPath, [], none⟩).2 with
  | error failure => rfl
  | ok received =>
    simp only [mapError_ok]
    cases received.text server with
    | error failure => rfl
    | ok text => rfl

theorem isQuiet_fetchCrumb (t : Traffic) : ((e.fetchCrumb server).run t).IsQuiet := by
  rw [fetchCrumb]
  refine Action.isQuiet_bind (isQuiet_send server e _ _ _ _ t) ?_
  split
  · exact Action.isQuiet_pure _ _
  · split
    · exact Action.isQuiet_pure _ _
    · exact Action.isQuiet_pure _ _

/-! ## The base URL -/

/-- Only slashes are cut from the end of a URL. -/
theorem toList_trimUrl (url : String) :
    ∃ n, url.toList = (trimUrl url).toList ++ List.replicate n '/' := by
  have hslashes : ∀ c ∈ url.toList.reverse.takeWhile (· == '/'), c = '/' := fun c hc => by
    simpa using List.all_eq_true.mp List.all_takeWhile c hc
  refine ⟨(url.toList.reverse.takeWhile (· == '/')).length, ?_⟩
  rw [trimUrl, String.toList_ofList, ← List.reverse_replicate, ← List.eq_replicate_of_mem hslashes,
    ← List.reverse_append, List.takeWhile_append_dropWhile, List.reverse_reverse]

theorem getLast?_trimUrl (url : String) : (trimUrl url).toList.getLast? ≠ some '/' := by
  rw [trimUrl, String.toList_ofList, List.getLast?_reverse]
  intro h
  have hnot := List.head?_dropWhile_not (· == '/') url.toList.reverse
  rw [h] at hnot
  simp at hnot

end Endpoint

namespace Session

variable (server : Http.Server)

/-! ## Opening -/

/-- The endpoint that a session with `url` is bound to. -/
def endpoint (url : String) (credentials : Option Credentials) (insecure : Bool)
    (timeout : Nat) : Endpoint :=
  { url := Endpoint.trimUrl url, credentials, insecure, timeout }

theorem value_connect (url : String) (credentials : Option Credentials) (insecure : Bool)
    (timeout : Nat) (t : Traffic) :
    ((connect server url credentials insecure timeout).run t).value =
      let e := endpoint url credentials insecure timeout
      ((e.issued server t.requests).map fun crumb => { e with crumb },
        { isSilenced := insecure || t.isSilenced
          exchanges := t.exchanges ++ [e.exchangeFor server t.requests e.crumbQuery] }) := by
  rw [connect, endpoint]
  cases insecure with
  | false =>
    simp only [Bool.false_eq_true, if_false, Action.value_bind, Endpoint.value_fetchCrumb]
    cases Endpoint.issued server ⟨Endpoint.trimUrl url, credentials, false, timeout⟩ t.requests with
    | error failure => simp only [Action.value_pure, Except.map, Traffic.add, Bool.false_or]
    | ok crumb =>
      simp only [Action.value_bind, Action.value_lift, Action.value_pure, Except.map, Traffic.add,
        Bool.false_or]
  | true =>
    have hsuppress : (Notice.suppress t.isSilenced).value = true := by
      cases t.isSilenced <;> rfl
    simp only [if_true, Action.value_bind, Action.value_get, Action.value_lift, Action.value_set]
    generalize (Notice.suppress t.isSilenced).value = silenced at hsuppress ⊢
    subst hsuppress
    have hrequests : Traffic.requests ⟨true, t.exchanges⟩ = t.requests := rfl
    simp only [Endpoint.value_fetchCrumb, hrequests]
    cases Endpoint.issued server ⟨Endpoint.trimUrl url, credentials, true, timeout⟩ t.requests with
    | error failure => simp only [Action.value_pure, Except.map, Traffic.add, Bool.true_or]
    | ok crumb =>
      simp only [Action.value_bind, Action.value_lift, Action.value_pure, Except.map, Traffic.add,
        Bool.true_or]

section

variable {server} {url : String} {credentials : Option Credentials} {insecure : Bool}
  {timeout : Nat} {t : Traffic} {s : Session}
  (h : ((connect server url credentials insecure timeout).run t).value.1 = .ok s)

include h

/-- An open session is what its server was asked with, and the crumb that came of it. -/
theorem issued_of_connect :
    (endpoint url credentials insecure timeout).issued server t.requests = .ok s.crumb ∧
      s = { endpoint url credentials insecure timeout with crumb := s.crumb } := by
  rw [value_connect] at h
  cases hissued :
      (endpoint url credentials insecure timeout).issued server t.requests with
  | error failure => simp [hissued, Except.map] at h
  | ok crumb =>
    obtain rfl : { endpoint url credentials insecure timeout with crumb } = s := by
      simpa [hissued, Except.map] using h
    exact ⟨rfl, rfl⟩

/-- The crumb of an open session is the one that the session's own server gave out. -/
theorem issued_toEndpoint_of_connect :
    s.toEndpoint.issued server t.requests = .ok s.crumb := by
  obtain ⟨hissued, hs⟩ := issued_of_connect h
  rw [hs]
  exact hissued

theorem isClosed_of_connect : s.isClosed = false := by
  rw [(issued_of_connect h).2]

end

theorem isQuiet_connect (url : String) (credentials : Option Credentials) (insecure : Bool)
    (timeout : Nat) (t : Traffic) :
    ((connect server url credentials insecure timeout).run t).IsQuiet := by
  have hsuppress (silenced : Bool) : (Notice.suppress silenced).IsQuiet := by
    cases silenced with
    | false => exact (Logged.isQuiet_debug _).bind (Logged.isQuiet_pure _)
    | true => exact Logged.isQuiet_pure _
  have hdebug (text : String) (t : Traffic) :
      ((liftM (Logged.debug text) : Action Traffic Unit).run t).IsQuiet :=
    Action.isQuiet_lift (Logged.isQuiet_debug _) _
  rw [connect]
  cases insecure with
  | false =>
    refine Action.isQuiet_bind (Endpoint.isQuiet_fetchCrumb server _ t) ?_
    split
    · exact Action.isQuiet_pure _ _
    · exact Action.isQuiet_bind (hdebug _ _) (Action.isQuiet_pure _ _)
  | true =>
    refine Action.isQuiet_bind (Logged.isQuiet_pure _) ?_
    refine Action.isQuiet_bind (Action.isQuiet_lift (hsuppress _) _) ?_
    refine Action.isQuiet_bind (Logged.isQuiet_pure _) ?_
    refine Action.isQuiet_bind (Endpoint.isQuiet_fetchCrumb server _ _) ?_
    split
    · exact Action.isQuiet_pure _ _
    · exact Action.isQuiet_bind (hdebug _ _) (Action.isQuiet_pure _ _)

end Session

end PipelineLint
