import PipelineLint.Proofs.Lint.Verdict
import PipelineLint.Proofs.Session.Outcome

/-!
# Calls on a session

Whoever holds a session can do four things with it: send a request, post a form, lint a file, and
close it. This module says once what each of these calls leaves behind and what it records, so that
a statement about many calls is an induction with these lemmas as its step.

The session itself is changed by closing it and by nothing else. The records of a call are few, and
each of them tells by its wording which call made it: a request is announced by its method and its
URL, a verdict by the path of its file, and the end of a session by a fixed phrase.

## Main definitions

* `Session.Call` — a call on a session
* `Session.perform` — makes a call
* `Session.Records` — what a call may record

## Main results

* `Session.value_perform` — what a call leaves behind
* `Session.Records.of_mem` — every record of a call is one that it may make
* `Session.request_of_isClosed`, `Session.lint_of_isClosed` — calls on a closed session
-/

namespace PipelineLint

namespace Session

/-- A call on a session. A file is linted with the files and the sink that are there at the time. -/
inductive Call where
  | request (method path : String) (form : Option Http.Form) (headers : List (String × String))
  | postForm (path : String) (form : Http.Form)
  | lint (files : FileSystem) (path : String) (out : Sink)
  | close

/-- Whether a call ends the session. -/
def Call.isClose : Call → Bool
  | .close => true
  | _ => false

variable (server : Http.Server)

/-- Makes a call, and gives the session back as the call leaves it. -/
def perform (s : Session) : Call → Action Traffic Session
  | .request method path form headers => do
    let _ ← s.request server method path form headers
    pure s
  | .postForm path form => do
    let _ ← s.postForm server path form
    pure s
  | .lint files path out => do
    let _ ← s.lint server files path out
    pure s
  | .close => s.close

/-- What is recorded when a session ends. -/
def closing (url : String) : Log.Record := ⟨.debug, "Closed session with " ++ url⟩

/-! ## Closed sessions -/

section

variable {s : Session} (hs : s.isClosed = true)
include hs

/-- A closed session refuses every request, sends nothing, and records nothing. -/
theorem request_of_isClosed (method path : String) (form : Option Http.Form)
    (headers : List (String × String)) :
    s.request server method path form headers = pure (.error (.closed s.url)) :=
  if_pos hs

theorem postForm_of_isClosed (path : String) (form : Http.Form) :
    s.postForm server path form = pure (.error (.closed s.url)) :=
  request_of_isClosed server hs _ _ _ _

/-- Linting through a closed session fails for the file when the file holds no text, and otherwise
for the session. -/
theorem lint_eq_of_isClosed (files : FileSystem) (path : String) (out : Sink) :
    s.lint server files path out =
      match readPipeline files path with
      | .error e => pure (.error e, out)
      | .ok _ => pure (.error (.submit path (.closed s.url)), out) := by
  have hsubmit (content : String) : s.submit server content = pure (.error (.closed s.url)) := by
    rw [submit, postForm_of_isClosed server hs]
    rfl
  rw [lint]
  cases readPipeline files path with
  | error e => rfl
  | ok content =>
    dsimp only
    rw [hsubmit]
    rfl

/-- A closed session lints no file. -/
theorem lint_of_isClosed (files : FileSystem) (path : String) (out : Sink) (t : Traffic) :
    ∃ e, (s.lint server files path out).run t = pure ((.error e, out), t) := by
  rw [lint_eq_of_isClosed server hs]
  cases readPipeline files path with
  | error e => exact ⟨e, rfl⟩
  | ok content => exact ⟨.submit path (.closed s.url), rfl⟩

end

/-! ## What a call leaves behind -/

section

variable (s : Session) (t : Traffic)

theorem value_close :
    s.close.value = { s with isClosed := true } := by
  rw [close]
  cases s.isClosed <;> rfl

theorem records_close : s.close.records = if s.isClosed then [] else [closing s.url] := by
  rw [close]
  cases s.isClosed <;> rfl

theorem isSilenced_request (method path : String) (form : Option Http.Form)
    (headers : List (String × String)) :
    ((s.request server method path form headers).run t).value.2.isSilenced = t.isSilenced := by
  cases hs : s.isClosed with
  | true => rw [request_of_isClosed server hs]; rfl
  | false => rw [value_request server hs]; rfl

theorem isSilenced_lint (files : FileSystem) (path : String) (out : Sink) :
    ((s.lint server files path out).run t).value.2.isSilenced = t.isSilenced := by
  cases hs : s.isClosed with
  | true =>
    obtain ⟨e, hlint⟩ := lint_of_isClosed server hs files path out t
    rw [hlint]
    rfl
  | false =>
    rw [value_lint server files hs]
    cases readPipeline files path with
    | error e => rfl
    | ok content => rfl

/-- Linting a file records its submission, and then the verdict, if there is one. -/
theorem records_lint (files : FileSystem) (path : String) (out : Sink) :
    ((s.lint server files path out).run t).records =
      (match readPipeline files path with
        | .error _ => []
        | .ok content =>
          ((s.postForm server validatorPath (submission content)).run t).records) ++
      match ((s.lint server files path out).run t).value.1.1 with
      | .ok valid => [⟨.debug, path ++ ": " ++ verdictWord valid⟩]
      | .error _ => [] := by
  rw [lint]
  cases readPipeline files path with
  | error e => rfl
  | ok content =>
    have hsubmit : ((s.submit server content).run t).records =
        ((s.postForm server validatorPath (submission content)).run t).records := by
      rw [submit, Action.records_bind]
      split
      · rw [Action.records_pure, List.append_nil]
      · rw [Action.records_pure, List.append_nil]
    dsimp only
    rw [Action.records_bind, Action.value_bind, hsubmit]
    congr 1
    cases ((s.submit server content).run t).value.1 with
    | error e => rfl
    | ok body =>
      dsimp only
      generalize report path body out = reported
      obtain ⟨_ | valid, out'⟩ := reported
      · rfl
      · rfl

/-- **What a call leaves behind**: only closing changes the session, and no call changes whether
the notice about certificates is silenced. -/
theorem value_perform (c : Call) :
    ((s.perform server c).run t).value.1 = { s with isClosed := s.isClosed || c.isClose } ∧
    ((s.perform server c).run t).value.2.isSilenced = t.isSilenced := by
  cases c with
  | request method path form headers =>
    exact ⟨by simp [perform, Call.isClose], isSilenced_request server s t method path form headers⟩
  | postForm path form =>
    exact ⟨by simp [perform, Call.isClose], isSilenced_request server s t _ _ _ _⟩
  | lint files path out =>
    exact ⟨by simp [perform, Call.isClose], isSilenced_lint server s t files path out⟩
  | close => exact ⟨by simp [perform, Call.isClose, value_close], rfl⟩

end

/-! ## What a call records -/

/-- What a call may record on a session `s`, when the traffic before it is `t`. -/
inductive Records (s : Session) (t : Traffic) : Call → Log.Record → Prop
  | announced {c} (method path : String) :
      Records s t c ⟨.debug, method ++ " " ++ s.target path⟩
  | warned {c} (hinsecure : s.insecure = true) (hnotice : t.isSilenced = false) (text : String) :
      Records s t c ⟨.warn, text⟩
  | judged {files path out} (valid : Bool) :
      Records s t (.lint files path out) ⟨.debug, path ++ ": " ++ verdictWord valid⟩
  | closed (hopen : s.isClosed = false) : Records s t .close (closing s.url)

section

variable {server : Http.Server} {s : Session} {t : Traffic}

theorem Records.of_mem_give {c : Call} {target : String} {r : Log.Record}
    (hinsecure : s.insecure = true) (hr : r ∈ (Notice.give t.isSilenced target).records) :
    s.Records t c r := by
  rw [Notice.give] at hr
  split at hr
  next text htext =>
    obtain rfl : r = ⟨.warn, text⟩ := by simpa [Logged.warn, Logged.record] using hr
    refine .warned hinsecure ?_ text
    cases hsilenced : t.isSilenced with
    | false => rfl
    | true => simp [Notice.text?, hsilenced] at htext
  next => simp at hr

theorem Records.of_mem_request {c : Call} {method path : String} {form : Option Http.Form}
    {headers : List (String × String)} {r : Log.Record}
    (hr : r ∈ ((s.request server method path form headers).run t).records) : s.Records t c r := by
  rw [request] at hr
  split at hr
  · simp at hr
  · rw [Endpoint.records_send, List.mem_cons] at hr
    rcases hr with rfl | hr
    · exact .announced method path
    · split at hr
      next hinsecure => exact .of_mem_give hinsecure hr
      next => cases hr

theorem Records.of_mem_lint {files : FileSystem} {path : String} {out : Sink} {r : Log.Record}
    (hr : r ∈ ((s.lint server files path out).run t).records) :
    s.Records t (.lint files path out) r := by
  rw [records_lint, List.mem_append] at hr
  rcases hr with hr | hr
  · split at hr
    · cases hr
    · exact .of_mem_request hr
  · split at hr
    · next valid _ =>
      obtain rfl := List.mem_singleton.mp hr
      exact .judged valid
    · cases hr

/-- **Every record of a call is one that it may make.** -/
theorem Records.of_mem {c : Call} {r : Log.Record}
    (hr : r ∈ ((s.perform server c).run t).records) : s.Records t c r := by
  cases c with
  | request method path form headers =>
    simp only [perform, Action.records_bind, Action.records_pure, List.append_nil] at hr
    exact .of_mem_request hr
  | postForm path form =>
    simp only [perform, Action.records_bind, Action.records_pure, List.append_nil] at hr
    exact .of_mem_request hr
  | lint files path out =>
    simp only [perform, Action.records_bind, Action.records_pure, List.append_nil] at hr
    exact .of_mem_lint hr
  | close =>
    rw [perform, Action.records_lift, records_close] at hr
    split at hr
    · cases hr
    · next hopen =>
      obtain rfl : r = closing s.url := by simpa using hr
      exact .closed (by simpa using hopen)

end

end Session

end PipelineLint
