import PipelineLint.Proofs.Lint.Submission
import PipelineLint.Proofs.Session.Calls

/-!
# The phases of linting a file

A file is read, its bytes are decoded, an exchange is started, the answer's body is read, and the
report is written. Many of these may be doomed at once: the file is missing and the session closed,
or the bytes are no text and the server is down. What is told is always the first phase that fails,
and the phases behind it leave no trace: only the report prints, and only a text that an open
session submits reaches the server.

## A phase is what went before

Each rule of `Decides` says of every phase before its own that it went well, so the rules exclude
each other, and together they leave no case out. That is the whole precedence of errors. The rules
are stated in terms of the file system, the session and the answers of the server; the first
function that mentions them in an order of its own is `reply`, and the two are proved equal.

## Main definitions

* `Session.Decides` — the phase that decides how linting a file ends
* `Session.reply` — what there is to report about a file, or why there is nothing

## Main results

* `path_of_report` — an error of a report names the file
* `Session.decides_iff` — exactly one phase decides
* `Session.lint_decided` — what is told, what is printed and what is asked
-/

namespace PipelineLint

/-- Every error of a report names the file that it is about. -/
theorem path_of_report {path body : String} {out : Sink} {e : ValidationError}
    (h : (report path body out).1 = .error e) : e.path = path := by
  rw [report] at h
  split at h
  · cases h
    rfl
  · split at h
    · cases h
      rfl
    · split at h
      · cases h
      · cases h
        rfl

namespace Session

variable (server : Http.Server) (files : FileSystem) (s : Session)

/-- The phase that decides how linting the file `path` ends, when the server saw the requests `past`
before: the first one that fails, with its error, or the report on the body of the answer. -/
inductive Decides (past : List Http.Request) (path : String) :
    Except ValidationError String → Prop
  | unreadable {cause} (hread : files.read path = .error cause) :
      Decides past path (.error (.io path cause))
  | undecodable {bytes m} (hread : files.read path = .ok bytes)
      (hbytes : ¬ ∃ text, Text.Utf8.encode text = bytes) (hm : Text.Utf8.decode bytes = .error m) :
      Decides past path (.error (.decode path m))
  | closed {text} (hread : files.read path = .ok (Text.Utf8.encode text))
      (hs : s.isClosed = true) : Decides past path (.error (.submit path (.closed s.url)))
  | unanswered {text failure} (hread : files.read path = .ok (Text.Utf8.encode text))
      (hs : s.isClosed = false)
      (hanswer : (s.answer server past (s.submissionQuery (String.ofList text))).2 =
        .error failure) :
      Decides past path (.error (.submit path (.request (s.target validatorPath) failure)))
  | cutOff {text received failure} (hread : files.read path = .ok (Text.Utf8.encode text))
      (hs : s.isClosed = false)
      (htakes : s.Takes server past (s.submissionQuery (String.ofList text)) received)
      (htext : received.Reads server (.error failure)) :
      Decides past path (.error (.submit path (.request (s.target validatorPath) failure)))
  | answered {text received body} (hread : files.read path = .ok (Text.Utf8.encode text))
      (hs : s.isClosed = false)
      (htakes : s.Takes server past (s.submissionQuery (String.ofList text)) received)
      (htext : received.Reads server (.ok body)) : Decides past path (.ok body)

/-- The body that is to be reported about a file, or why there is none. -/
def reply (past : List Http.Request) (path : String) : Except ValidationError String :=
  match readPipeline files path with
  | .error e => .error e
  | .ok content =>
    if s.isClosed then .error (.submit path (.closed s.url))
    else (s.response server past content).mapError (.submit path)

section

variable {server : Http.Server} {files : FileSystem} {s : Session} {past : List Http.Request}
  {path : String}

theorem reply_of_encode {text : List Char}
    (hread : files.read path = .ok (Text.Utf8.encode text)) :
    s.reply server files past path =
      if s.isClosed then .error (.submit path (.closed s.url))
      else (s.response server past (String.ofList text)).mapError (.submit path) := by
  rw [reply, readPipeline_of_encode hread]

theorem Decides.eq_reply {outcome : Except ValidationError String}
    (h : s.Decides server files past path outcome) :
    outcome = s.reply server files past path := by
  cases h with
  | unreadable hread => simp only [reply, readPipeline, hread]
  | undecodable hread _ hm => simp only [reply, readPipeline, hread, hm]
  | closed hread hs => rw [reply_of_encode hread, if_pos hs]
  | unanswered hread hs hanswer => simp [reply_of_encode hread, hs, response, hanswer]
  | cutOff hread hs htakes htext =>
    have hanswer := (s.snd_answer_eq_ok_iff server _ _).mpr htakes
    simp [reply_of_encode hread, hs, response, hanswer, htext.text_eq]
  | answered hread hs htakes htext =>
    have hanswer := (s.snd_answer_eq_ok_iff server _ _).mpr htakes
    simp [reply_of_encode hread, hs, response, hanswer, htext.text_eq]

variable (server files s past path) in
theorem decides_reply : s.Decides server files past path (s.reply server files past path) := by
  cases hread : files.read path with
  | error cause =>
    have hreply : s.reply server files past path = .error (.io path cause) := by
      simp only [reply, readPipeline, hread]
    exact hreply ▸ .unreadable hread
  | ok bytes =>
    cases hdecode : Text.Utf8.decode bytes with
    | error m =>
      have hbytes : ¬ ∃ text, Text.Utf8.encode text = bytes := by
        rintro ⟨text, htext⟩
        rw [Text.Utf8.decode_eq_ok_iff.mpr htext] at hdecode
        cases hdecode
      have hreply : s.reply server files past path = .error (.decode path m) := by
        simp only [reply, readPipeline, hread, hdecode]
      exact hreply ▸ .undecodable hread hbytes hdecode
    | ok text =>
      obtain rfl := Text.Utf8.decode_eq_ok_iff.mp hdecode
      rw [reply_of_encode hread]
      cases hs : s.isClosed with
      | true => exact .closed hread hs
      | false =>
        rw [if_neg (by simp), response]
        cases hanswer : (s.answer server past (s.submissionQuery (String.ofList text))).2 with
        | error failure => exact .unanswered hread hs hanswer
        | ok received =>
          have htakes := (s.snd_answer_eq_ok_iff server _ _).mp hanswer
          dsimp only
          cases htext : received.text server with
          | error failure => exact .cutOff hread hs htakes (Http.Received.text_eq_iff.mp htext)
          | ok body => exact .answered hread hs htakes (Http.Received.text_eq_iff.mp htext)

/-- **Exactly one phase decides.** -/
theorem decides_iff {outcome : Except ValidationError String} :
    s.Decides server files past path outcome ↔ outcome = s.reply server files past path := by
  constructor
  · exact Decides.eq_reply
  · rintro rfl
    exact decides_reply server files s past path

end

/-- What linting a file tells and prints is the report on its reply, or else the error alone. -/
theorem fst_lint_eq (path : String) (out : Sink) (t : Traffic) :
    ((s.lint server files path out).run t).value.1 =
      match s.reply server files t.requests path with
      | .error e => (.error e, out)
      | .ok body => report path body out := by
  rw [reply]
  cases hs : s.isClosed with
  | true =>
    rw [lint_eq_of_isClosed server hs]
    cases readPipeline files path with
    | error e => rfl
    | ok content => rfl
  | false =>
    rw [value_lint server files hs]
    cases readPipeline files path with
    | error e => rfl
    | ok content =>
      simp only [Bool.false_eq_true, if_false]
      cases s.response server t.requests content with
      | error e => rfl
      | ok body => rfl

theorem path_of_reply {past : List Http.Request} {path : String} {e : ValidationError}
    (h : s.reply server files past path = .error e) : e.path = path := by
  cases decides_iff.mpr h.symm with
  | unreadable => rfl
  | undecodable => rfl
  | closed => rfl
  | unanswered => rfl
  | cutOff => rfl

/-- The exchanges that linting a file starts. -/
theorem exists_started (path : String) (out : Sink) (t : Traffic) :
    ∃ started : List Exchange,
      ((s.lint server files path out).run t).value.2 =
        { t with exchanges := t.exchanges ++ started } ∧
      (∀ text, files.read path = .ok (Text.Utf8.encode text) → s.isClosed = false →
        ∃ x, started = [x] ∧ x.query = s.submissionQuery (String.ofList text)) ∧
      ((¬ ∃ text, files.read path = .ok (Text.Utf8.encode text)) ∨ s.isClosed = true →
        started = []) := by
  cases hs : s.isClosed with
  | true =>
    obtain ⟨e, hlint⟩ := lint_of_isClosed server hs files path out t
    refine ⟨[], ?_, by simp, by simp⟩
    rw [hlint, List.append_nil]
    rfl
  | false =>
    rw [value_lint server files hs]
    cases hread : readPipeline files path with
    | error e =>
      refine ⟨[], by rw [List.append_nil], fun text htext => ?_, fun _ => rfl⟩
      rw [readPipeline_of_encode htext] at hread
      cases hread
    | ok content =>
      refine ⟨[s.exchangeFor server t.requests (s.submissionQuery content)], rfl,
        fun text htext _ => ⟨_, rfl, ?_⟩, fun hnot => ?_⟩
      · rw [readPipeline_of_encode htext] at hread
        rw [Endpoint.query_exchangeFor, Except.ok.inj hread]
      · rcases hnot with hnot | hopen
        · exact absurd ⟨_, read_of_readPipeline hread⟩ hnot
        · cases hopen

/-- **How linting a file ends.** Exactly one phase decides, and it is the first that fails, or the
report on the answer. Nothing is printed unless it is the report. An exchange is started exactly
when an open session has a text to submit, and then one. Every error names the file. -/
theorem lint_decided (path : String) (out : Sink) (t : Traffic) :
    let left := ((s.lint server files path out).run t).value
    (∃ outcome, (∀ other, s.Decides server files t.requests path other ↔ other = outcome) ∧
      left.1 =
        match outcome with
        | .error e => (.error e, out)
        | .ok body => report path body out) ∧
    (∃ started : List Exchange, left.2 = { t with exchanges := t.exchanges ++ started } ∧
      (∀ text, files.read path = .ok (Text.Utf8.encode text) → s.isClosed = false →
        ∃ x, started = [x] ∧ x.query = s.submissionQuery (String.ofList text)) ∧
      ((¬ ∃ text, files.read path = .ok (Text.Utf8.encode text)) ∨ s.isClosed = true →
        started = [])) ∧
    ∀ e, left.1.1 = .error e → e.path = path := by
  intro left
  have hleft := fst_lint_eq server files s path out t
  refine ⟨⟨s.reply server files t.requests path, fun other => decides_iff, hleft⟩,
    exists_started server files s path out t, fun e he => ?_⟩
  simp only [left] at he
  rw [hleft] at he
  cases hreply : s.reply server files t.requests path with
  | error e' =>
    rw [hreply] at he
    cases he
    exact path_of_reply server files s hreply
  | ok body =>
    rw [hreply] at he
    exact path_of_report he

end Session

end PipelineLint
