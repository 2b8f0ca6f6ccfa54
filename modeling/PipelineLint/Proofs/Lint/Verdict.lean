import PipelineLint.Lint
import PipelineLint.Proofs.Http.Body
import PipelineLint.Proofs.Report.Listing
import PipelineLint.Proofs.Session.Queries

/-!
# When a file is valid

A file's verdict passes through many hands: the file is read and decoded, its content is posted, the
answer comes back and has a text, the text is an answer of the validator, its diagnostics are
printed, and at last its result is looked at. Every step can end the linting with an error.
`Session.Passes` lists what has to go well, one condition for each step and nothing else.

## Positions instead of a fold

The files of a run are linted one after the other, and each of them finds the sink and the traffic
that the files before it left. `turn` names these for every position, so that a statement about all
files of a run is a statement about each position, and the fold appears in no statement.

## Main definitions

* `Session.submissionQuery` — the query that submits a content
* `Session.Passes` — a file is valid, and everybody could be told so
* `turn` — what the files before a position leave

## Main results

* `Session.value_submit` — what submitting leaves behind
* `Session.fst_lint_eq_ok_iff` — where a verdict comes from
* `fst_report_eq_ok_true_iff`, `Session.fst_lint_eq_ok_true_iff` — when a verdict is `true`
* `lintFiles_eq_true_iff` — all files of a run are valid when each is at its turn
-/

namespace PipelineLint

/-! ## One file -/

/-- A file can be linted when its content is text. -/
theorem readPipeline_eq_ok_iff {files : FileSystem} {path content : String} :
    readPipeline files path = .ok content ↔ files.readText path = .ok content := by
  rw [readPipeline, FileSystem.readText]
  cases files.read path with
  | error e => simp
  | ok bytes =>
    dsimp only
    cases Text.Utf8.decode bytes with
    | error e => simp
    | ok text => simp

/-- **A report says that a file is valid** when the answer can be read, all of it can be printed,
and its result is the one for valid files. -/
theorem fst_report_eq_ok_true_iff {path body : String} {out : Sink} :
    (report path body out).1 = .ok true ↔
      ∃ answer, Answer.parse body = .ok answer ∧
        out.Takes (answer.diagnostics.flatMap (·.bytes path)) ∧ answer.result = some "success" := by
  cases hparse : Answer.parse body with
  | error e => simp [report, hparse]
  | ok answer =>
    rw [report_of_parse hparse]
    simp only [Except.ok.injEq, exists_eq_left', ← Sink.fst_write_eq_true_iff,
      ← Answer.verdict_eq_ok_true_iff path]
    generalize out.write (answer.diagnostics.flatMap (·.bytes path)) = written
    obtain ⟨_ | _, out'⟩ := written
    · simp
    · simp

namespace Session

variable (server : Http.Server) (files : FileSystem) (s : Session)

/-- The query that submits a content. -/
def submissionQuery (content : String) : Query :=
  { method := "POST"
    target := s.target validatorPath
    headers := [(s.crumb.name, s.crumb.value)]
    form := some (submission content) }

/-- What the validator says to a content after the requests `past`, or why it says nothing. -/
def response (past : List Http.Request) (content : String) : Except ConnectionError String :=
  match (s.answer server past (s.submissionQuery content)).2 with
  | .error failure => .error (.request (s.target validatorPath) failure)
  | .ok received => (received.text server).mapError (.request (s.target validatorPath))

variable {s} in
/-- An open session submits a content by one exchange. -/
theorem value_submit (hs : s.isClosed = false) (content : String) (t : Traffic) :
    ((s.submit server content).run t).value =
      (s.response server t.requests content,
        t.add (s.exchangeFor server t.requests (s.submissionQuery content))) := by
  rw [submit, postForm, request, response]
  simp only [hs, Bool.false_eq_true, if_false, Action.value_bind, Endpoint.value_send,
    submissionQuery]
  cases (s.answer server t.requests ⟨"POST", s.target validatorPath,
    [(s.crumb.name, s.crumb.value)], some (submission content)⟩).2 with
  | error failure => rfl
  | ok received => rfl

/-- The file `path` is valid: it holds text, the validator answers to it, the answer can be read,
everything in it can be printed, and it calls the file valid. -/
def Passes (path : String) (out : Sink) (t : Traffic) : Prop :=
  ∃ content received body answer,
    files.readText path = .ok content ∧
    (s.answer server t.requests (s.submissionQuery content)).2 = .ok received ∧
    received.Reads server (.ok body) ∧
    Answer.parse body = .ok answer ∧
    out.Takes (answer.diagnostics.flatMap (·.bytes path)) ∧
    answer.result = some "success"

theorem response_eq_ok_iff {past : List Http.Request} {content body : String} :
    s.response server past content = .ok body ↔
      ∃ received, (s.answer server past (s.submissionQuery content)).2 = .ok received ∧
        received.Reads server (.ok body) := by
  simp only [← Http.Received.text_eq_iff]
  rw [response]
  cases (s.answer server past (s.submissionQuery content)).2 with
  | error failure => simp
  | ok received =>
    simp only [Except.ok.injEq, exists_eq_left']
    cases received.text server with
    | error failure => simp
    | ok text => simp

/-- **Linting a file through an open session**: nothing is asked when the file holds no text, and
otherwise one exchange is started, whatever comes of it. -/
theorem value_lint {s : Session} (hs : s.isClosed = false) (path : String) (out : Sink)
    (t : Traffic) :
    ((s.lint server files path out).run t).value =
      match readPipeline files path with
      | .error e => ((.error e, out), t)
      | .ok content =>
        (match s.response server t.requests content with
          | .error e => (.error (.submit path e), out)
          | .ok body => report path body out,
        t.add (s.exchangeFor server t.requests (s.submissionQuery content))) := by
  rw [lint]
  cases readPipeline files path with
  | error e => rfl
  | ok content =>
    simp only [Action.value_bind, value_submit server hs]
    generalize t.add (s.exchangeFor server t.requests (s.submissionQuery content)) = t'
    cases s.response server t.requests content with
    | error e => rfl
    | ok body =>
      dsimp only
      generalize report path body out = reported
      obtain ⟨_ | valid, out'⟩ := reported
      · rfl
      · rfl

/-- A verdict is what the report makes of the validator's answer. -/
theorem fst_lint_eq_ok_iff {s : Session} (hs : s.isClosed = false) {path : String} {out : Sink}
    {t : Traffic} {valid : Bool} :
    ((s.lint server files path out).run t).value.1.1 = .ok valid ↔
      ∃ content received body, readPipeline files path = .ok content ∧
        (s.answer server t.requests (s.submissionQuery content)).2 = .ok received ∧
        received.Reads server (.ok body) ∧ (report path body out).1 = .ok valid := by
  rw [value_lint server files hs]
  constructor
  · intro h
    cases hread : readPipeline files path with
    | error e => simp [hread] at h
    | ok content =>
      cases hbody : s.response server t.requests content with
      | error e => simp [hread, hbody] at h
      | ok body =>
        simp only [hread, hbody] at h
        obtain ⟨received, hreceived, htext⟩ := (response_eq_ok_iff server s).mp hbody
        exact ⟨content, received, body, rfl, hreceived, htext, h⟩
  · rintro ⟨content, received, body, hread, hreceived, htext, hreport⟩
    have hbody := (response_eq_ok_iff server s).mpr ⟨received, hreceived, htext⟩
    simp only [hread, hbody]
    exact hreport

/-- **A file's verdict is `true` exactly when the file passes.** -/
theorem fst_lint_eq_ok_true_iff {s : Session} (hs : s.isClosed = false) {path : String}
    {out : Sink} {t : Traffic} :
    ((s.lint server files path out).run t).value.1.1 = .ok true ↔
      s.Passes server files path out t := by
  rw [fst_lint_eq_ok_iff server files hs]
  constructor
  · rintro ⟨content, received, body, hread, hreceived, htext, hreport⟩
    obtain ⟨answer, hparse, hfits, hresult⟩ := fst_report_eq_ok_true_iff.mp hreport
    exact ⟨content, received, body, answer, readPipeline_eq_ok_iff.mp hread, hreceived, htext,
      hparse, hfits, hresult⟩
  · rintro ⟨content, received, body, answer, hread, hreceived, htext, hparse, hfits, hresult⟩
    exact ⟨content, received, body, readPipeline_eq_ok_iff.mpr hread, hreceived, htext,
      fst_report_eq_ok_true_iff.mpr ⟨answer, hparse, hfits, hresult⟩⟩

end Session

/-! ## All files of a run -/

section

variable {σ : Type} (linter : Linter σ)

theorem value_judge_eq_true_iff {verdict : Except ValidationError Bool} :
    (judge verdict).value = true ↔ verdict = .ok true := by
  cases verdict with
  | error e => simp [judge]
  | ok valid => simp [judge]

theorem value_lintFiles_cons (path : String) (paths : List String) (out : Sink) (t : σ) :
    ((lintFiles linter (path :: paths) out).run t).value =
      let first := ((linter path out).run t).value
      let more := ((lintFiles linter paths first.1.2).run first.2).value
      (((judge first.1.1).value && more.1.1, more.1.2), more.2) := rfl

/-- What the files before place `i` leave: the sink and the state in which the file at that place
is linted. -/
def turn (paths : List String) (out : Sink) (t : σ) (i : Nat) : Sink × σ :=
  let before := ((lintFiles linter (paths.take i) out).run t).value
  (before.1.2, before.2)

theorem turn_zero (paths : List String) (out : Sink) (t : σ) :
    turn linter paths out t 0 = (out, t) := rfl

theorem turn_succ (path : String) (paths : List String) (out : Sink) (t : σ) (i : Nat) :
    turn linter (path :: paths) out t (i + 1) =
      let first := ((linter path out).run t).value
      turn linter paths first.1.2 first.2 i := rfl

/-- **The status of many files.** It is `true` exactly when the verdict on each of them is, at the
state that the files before it left; no verdict is skipped and none is forgotten. -/
theorem lintFiles_eq_true_iff (paths : List String) (out : Sink) (t : σ) :
    ((lintFiles linter paths out).run t).value.1.1 = true ↔
      ∀ i path, paths[i]? = some path →
        ((linter path (turn linter paths out t i).1).run (turn linter paths out t i).2).value.1.1 =
          .ok true := by
  induction paths generalizing out t with
  | nil => simp [lintFiles]
  | cons first paths ih =>
    rw [value_lintFiles_cons]
    simp only [Bool.and_eq_true, value_judge_eq_true_iff, ih]
    constructor
    · rintro ⟨hfirst, hmore⟩ i path hi
      cases i with
      | zero =>
        obtain rfl : first = path := by simpa using hi
        simpa only [turn_zero] using hfirst
      | succ i =>
        rw [turn_succ]
        exact hmore i path (by simpa using hi)
    · intro h
      refine ⟨?_, fun i path hi => ?_⟩
      · simpa only [turn_zero] using h 0 first rfl
      · have := h (i + 1) path (by simpa using hi)
        rwa [turn_succ] at this

end

end PipelineLint
