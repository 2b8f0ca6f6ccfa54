import PipelineLint.Proofs.Lint.Verdict
import PipelineLint.Proofs.Session.Outcome

/-!
# The status of what is believed

A request through a session succeeds exactly when the answer at its end is taken, and whatever a
session believes comes from such an answer: its crumb, and every verdict on a file. The statuses
that are refused are those of errors, from 400 to 599.

So a success does not mean a status of success. The other statuses are mostly those that name
another place; such an answer is followed when it says where, and else it is the end. A server that
answers everything with 300 can open a session and call files valid.

## Main results

* `Session.request_eq_ok_iff_takes` — which answers are believed
* `Session.multiple_choices_taken` — a server without any successful answer is believed
-/

namespace PipelineLint.Session

/-- A verdict comes from an answer that is taken. -/
theorem exists_takes_of_lint {server : Http.Server} {files : FileSystem} {s : Session}
    (hs : s.isClosed = false) {path : String} {out : Sink} {t : Traffic} {valid : Bool}
    (h : ((s.lint server files path out).run t).value.1.1 = .ok valid) :
    ∃ content received body, readPipeline files path = .ok content ∧
      s.Takes server t.requests (s.submissionQuery content) received ∧
      received.Reads server (.ok body) ∧ (report path body out).1 = .ok valid := by
  obtain ⟨content, received, body, hread, hreceived, htext, hreport⟩ :=
    (fst_lint_eq_ok_iff server files hs).mp h
  exact ⟨content, received, body, hread, (s.snd_answer_eq_ok_iff server _ _).mp hreceived, htext,
    hreport⟩

/-- **What is believed comes from an answer that is taken.** Everything else that a request can come
to is a failed exchange, and one with an error status says which. -/
theorem request_eq_ok_iff_takes {s : Session} (hs : s.isClosed = false) (server : Http.Server)
    (t : Traffic) :
    (∀ method path form headers received,
      ((s.request server method path form headers).run t).value.1 = .ok received ↔
        s.Takes server t.requests ⟨method, s.target path, headers, form⟩ received) ∧
    (∀ method path form headers e,
      ((s.request server method path form headers).run t).value.1 = .error e →
        ∃ failure, e = .request (s.target path) failure) ∧
    (∀ method path form headers received,
      Http.EndsWith server t.requests
        (s.answer server t.requests ⟨method, s.target path, headers, form⟩).1 received →
      400 ≤ received.response.status → received.response.status < 600 →
      ((s.request server method path form headers).run t).value.1 =
        .error (.request (s.target path)
          (.status received.response.status received.request.url.render))) ∧
    (∀ url credentials insecure timeout opened,
      ((connect server url credentials insecure timeout).run t).value.1 = .ok opened →
      ∃ received text, (endpoint url credentials insecure timeout).Takes server t.requests
          (endpoint url credentials insecure timeout).crumbQuery received ∧
        received.Reads server (.ok text) ∧
        Crumb.parse text (Endpoint.trimUrl url) = .ok opened.crumb) ∧
    ∀ files path out valid,
      ((s.lint server files path out).run t).value.1.1 = .ok valid →
      ∃ content received body, readPipeline files path = .ok content ∧
        s.Takes server t.requests (s.submissionQuery content) received ∧
        received.Reads server (.ok body) ∧ (report path body out).1 = .ok valid := by
  refine ⟨?_, ?_, ?_, ?_, ?_⟩
  · intro method path form headers received
    simp only [value_request server hs, ← s.snd_answer_eq_ok_iff server]
    cases (s.answer server t.requests ⟨method, s.target path, headers, form⟩).2 with
    | error failure => simp
    | ok received' => simp
  · intro method path form headers e h
    rw [value_request server hs] at h
    cases hanswer : (s.answer server t.requests ⟨method, s.target path, headers, form⟩).2 with
    | error failure =>
      simp only [hanswer, mapError_error, Except.error.injEq] at h
      exact ⟨failure, h.symm⟩
    | ok received => simp [hanswer] at h
  · intro method path form headers received hends hlow hhigh
    rw [value_request server hs]
    simp only [s.snd_answer_of_endsWith server _ _ hends, Http.judgeStatus_eq,
      if_pos (And.intro hlow hhigh), mapError_error]
  · intro url credentials insecure timeout opened h
    exact exists_takes_of_connect h
  · intro files path out valid h
    exact exists_takes_of_lint hs h

/-- Answers everything with status 300, and gives crumbs and verdicts all the same. -/
def manyChoices : Http.Server where
  reply _ r := .response ⟨300, [], .whole (Text.Utf8.encode
    (if r.method = "GET" then "Jenkins-Crumb:1".toList else "[[\"success\"]]".toList))⟩

theorem takes_multiple_choices :
    ∃ (s : Session) (received : Http.Received), s.isClosed = false ∧
      s.Takes manyChoices [] ⟨"GET", s.target "", [], none⟩ received ∧
      received.response.status = 300 := by
  have hrequest := (@request_eq_ok_iff_takes { url := "http://a", crumb := ⟨"Jenkins-Crumb", "1"⟩ }
    rfl manyChoices {}).1 "GET" "" none []
  refine ⟨_, _, rfl, (hrequest _).mp rfl, ?_⟩
  rfl

/-- **Some answers without a status of success are believed.** -/
theorem multiple_choices_taken :
    ∃ s : Session, ((connect manyChoices "http://a" none false 1000).run {}).value.1 = .ok s ∧
      s.isClosed = false ∧ s.crumb = ⟨"Jenkins-Crumb", "1"⟩ ∧
      (∃ received, ((s.request manyChoices "GET" "" none []).run {}).value.1 = .ok received ∧
        received.response.status = 300) ∧
      ((s.lint manyChoices ⟨fun _ => .ok []⟩ "Jenkinsfile" {}).run {}).value.1.1 = .ok true := by
  refine ⟨{ url := "http://a", timeout := 1000, crumb := ⟨"Jenkins-Crumb", "1"⟩ }, rfl, rfl, rfl,
    ⟨_, rfl, rfl⟩, ?_⟩
  have hparse : Answer.parse "[[\"success\"]]" = .ok ⟨some "success", []⟩ := by cbv
  rw [fst_lint_eq_ok_true_iff _ _ rfl]
  exact ⟨"", _, "[[\"success\"]]", _, rfl, rfl, Http.Received.text_eq_iff.mp rfl, hparse,
    fun n hn => (by cases hn), rfl⟩

end PipelineLint.Session
