import PipelineLint.Proofs.Http.Body
import PipelineLint.Proofs.Http.Following
import PipelineLint.Proofs.Session.Queries

/-!
# What comes of a query

A query either fails before anything is sent or leads to a chain of requests. From that one case
distinction follow the two facts that callers need: when nothing is sent, and which answers are
taken. An answer is taken when it ends the chain and its status is not one of an error. That is
less than a status of success: an answer that names another place without saying where ends the
chain, too, and is taken for what its body says.

## Main definitions

* `Endpoint.Takes` — an answer ends what is sent for a query, and its status is not one of an error

## Main results

* `Endpoint.answer_cases` — what can come of a query
* `Endpoint.snd_answer_eq_ok_iff` — which answers are taken
* `Endpoint.issued_eq_ok_iff`, `Session.exists_takes_of_connect` — where a crumb comes from
-/

namespace PipelineLint

namespace Endpoint

variable (server : Http.Server) (e : Endpoint) (past : List Http.Request) (q : Query)

/-- A query fails before anything is sent, or it leads to what the server makes of it. -/
theorem answer_cases :
    (∃ failure, e.answer server past q = ([], .error failure) ∧
      (failure.isBuilding = true ∨ e.timeout = 0)) ∨
    ∃ (r : Http.Request) (sent : List Http.Request) (outcome : Except Http.Failure Http.Received),
      r.method = q.method ∧ r.body = q.form.map (fun form => String.ofList form.encode) ∧
      Http.Leads server server.hops past r sent outcome ∧
      e.answer server past q = (sent, outcome.bind Http.judgeStatus) := by
  obtain ⟨failure, hanswer, hwhy⟩ | ⟨r, sent, outcome, hbuilt, hleads, hanswer⟩ :=
    Http.exchange_cases server e.timeout past
      (Http.Request.build q.method q.target e.credentials q.headers q.form)
  · refine .inl ⟨failure, hanswer, ?_⟩
    rcases hwhy with hbuilt | ⟨r, -, htimeout | hobstacle⟩
    · exact .inl (Http.Request.isBuilding_of_build hbuilt)
    · exact .inr htimeout
    · exact .inl (Http.Request.isBuilding_of_obstacle? hobstacle)
  · obtain ⟨hmethod, hbody⟩ := Http.Request.of_build hbuilt
    exact .inr ⟨r, sent, outcome, hmethod, hbody, hleads, hanswer⟩

/-- The answer that ends what is sent for a query is judged by its status alone. -/
theorem snd_answer_of_endsWith {received : Http.Received}
    (h : Http.EndsWith server past (e.answer server past q).1 received) :
    (e.answer server past q).2 = Http.judgeStatus received := by
  obtain ⟨failure, hanswer, -⟩ | ⟨r, sent, outcome, -, -, hleads, hanswer⟩ :=
    e.answer_cases server past q
  · rw [hanswer] at h
    obtain ⟨before, hnone, -⟩ := h
    simp at hnone
  · rw [hanswer] at h ⊢
    rw [hleads.eq_ok_iff.mpr h]
    rfl

/-- `received` ends what is sent for a query, and its status is not one of an error. -/
def Takes (received : Http.Received) : Prop :=
  Http.EndsWith server past (e.answer server past q).1 received ∧
    ¬ (400 ≤ received.response.status ∧ received.response.status < 600)

/-- **Which answers are taken.** -/
theorem snd_answer_eq_ok_iff {received : Http.Received} :
    (e.answer server past q).2 = .ok received ↔ e.Takes server past q received := by
  obtain ⟨failure, hanswer, -⟩ | ⟨r, sent, outcome, -, -, hleads, hanswer⟩ :=
    e.answer_cases server past q
  · rw [Takes, hanswer]
    simp [Http.EndsWith]
  · rw [Takes, hanswer, ← hleads.eq_ok_iff]
    exact Http.bind_judgeStatus_eq_ok_iff

/-- **Which answers give a crumb**: those that are taken and hold one. -/
theorem issued_eq_ok_iff {crumb : Crumb} :
    e.issued server past = .ok crumb ↔
      ∃ received text, e.Takes server past e.crumbQuery received ∧
        received.Reads server (.ok text) ∧ Crumb.parse text e.url = .ok crumb := by
  simp only [← snd_answer_eq_ok_iff, ← Http.Received.text_eq_iff]
  rw [issued]
  cases (e.answer server past e.crumbQuery).2 with
  | error failure => simp
  | ok received =>
    simp only [Except.ok.injEq, exists_and_left, exists_eq_left']
    cases received.text server with
    | error failure => simp
    | ok text => simp

end Endpoint

namespace Session

variable (server : Http.Server)

theorem value_request {s : Session} (hs : s.isClosed = false) (method path : String)
    (form : Option Http.Form) (headers : List (String × String)) (t : Traffic) :
    ((s.request server method path form headers).run t).value =
      let q : Query := ⟨method, s.target path, headers, form⟩
      ((s.answer server t.requests q).2.mapError (.request q.target),
        t.add (s.exchangeFor server t.requests q)) := by
  rw [request, if_neg (by simp [hs]), Endpoint.value_send]

/-- The crumb of a session comes from an answer that is taken. -/
theorem exists_takes_of_connect {server : Http.Server} {url : String}
    {credentials : Option Credentials} {insecure : Bool} {timeout : Nat} {t : Traffic} {s : Session}
    (h : ((connect server url credentials insecure timeout).run t).value.1 = .ok s) :
    ∃ received text,
      (endpoint url credentials insecure timeout).Takes server t.requests
        (endpoint url credentials insecure timeout).crumbQuery received ∧
      received.Reads server (.ok text) ∧ Crumb.parse text (Endpoint.trimUrl url) = .ok s.crumb :=
  (Endpoint.issued_eq_ok_iff server _ _).mp (issued_of_connect h).1

end Session

end PipelineLint
