import PipelineLint.Proofs.Http.Form
import PipelineLint.Proofs.Lint.Verdict
import PipelineLint.Proofs.Session.Posting
import PipelineLint.Proofs.Text.Utf8

/-!
# What the validator is given

The bytes of a file take a long way to the validator: they are decoded to a text, the text is
encoded as a form, the form is the body of a request, and the request may be sent on. At the end of
that way stand the same bytes. Nothing is trimmed, no line ending and no byte order mark is touched,
and there is no second field.

Whether anything is sent at all is another matter, and none of the file's: any text is submitted by
a session that can post, and none by a session that cannot. What holds no text goes nowhere: it is
refused at the end of its longest prefix that is text.

## Main definitions

* `Submits` — requests that give the validator the bytes of a file

## Main results

* `Session.submits_exchangeFor` — what is sent for a content
* `Session.lint_submits` — what is sent for a file
-/

namespace PipelineLint

/-- The requests `sent` give the validator `bytes`: the first of them is a `POST`, the body of every
`POST` is a form whose only field holds the bytes, and no other request has a body. -/
structure Submits (bytes : List UInt8) (sent : List Http.Request) : Prop where
  first : ∀ r ∈ sent.head?, r.method = "POST"
  posted : ∀ r ∈ sent, r.method = "POST" → ∃ body, r.body = some body ∧
    Http.Form.decode body.toList = [(Text.Utf8.encode "jenkinsfile".toList, bytes)]
  bodiless : ∀ r ∈ sent, r.method ≠ "POST" → r.body = none

theorem decode_encode_submission (content : String) :
    Http.Form.decode (submission content).encode =
      [(Text.Utf8.encode "jenkinsfile".toList, Text.Utf8.encode content.toList)] :=
  Http.Form.decode_encode _

/-! ## Reading the file -/

section

variable {files : FileSystem} {path : String}

theorem readPipeline_of_encode {text : List Char}
    (hread : files.read path = .ok (Text.Utf8.encode text)) :
    readPipeline files path = .ok (String.ofList text) := by
  simp only [readPipeline, hread, Text.Utf8.decode_eq_ok_iff.mpr rfl]

theorem read_of_readPipeline {content : String} (h : readPipeline files path = .ok content) :
    files.read path = .ok (Text.Utf8.encode content.toList) := by
  rw [readPipeline] at h
  cases hread : files.read path with
  | error e => simp [hread] at h
  | ok bytes =>
    cases hdecode : Text.Utf8.decode bytes with
    | error m => simp [hread, hdecode] at h
    | ok text =>
      obtain rfl : String.ofList text = content := by simpa [hread, hdecode] using h
      rw [String.toList_ofList, Text.Utf8.decode_eq_ok_iff.mp hdecode]

theorem exists_of_readPipeline_not_text {bytes : List UInt8} (hread : files.read path = .ok bytes)
    (hbytes : ¬ ∃ text, Text.Utf8.encode text = bytes) :
    ∃ m, readPipeline files path = .error (.decode path m) ∧
      IsGreatest {n | n ≤ bytes.length ∧ ∃ text, Text.Utf8.encode text = bytes.take n} m.index := by
  cases hdecode : Text.Utf8.decode bytes with
  | ok text => exact absurd ⟨text, Text.Utf8.decode_eq_ok_iff.mp hdecode⟩ hbytes
  | error m =>
    refine ⟨m, ?_, Text.Utf8.isGreatest_of_decode_eq_error hdecode⟩
    simp only [readPipeline, hread, hdecode]

end

/-! ## Submitting it -/

namespace Session

variable (server : Http.Server) (s : Session)

theorem submits_exchangeFor (past : List Http.Request) (content : String) :
    Submits (Text.Utf8.encode content.toList)
      (s.exchangeFor server past (s.submissionQuery content)).sent := by
  obtain ⟨failure, hanswer, -⟩ | ⟨r, sent, outcome, hmethod, hbody, hleads, hanswer⟩ :=
    s.answer_cases server past (s.submissionQuery content)
  · rw [Endpoint.exchangeFor, hanswer]
    exact ⟨by simp, by simp, by simp⟩
  · rw [Endpoint.exchangeFor, hanswer]
    have hpost : r.method = "POST" := hmethod
    have hform : r.body = some (String.ofList (submission content).encode) := hbody
    refine ⟨fun r' hr' => ?_, fun r' hr' hmethod' => ?_, fun r' hr' hmethod' => ?_⟩
    · obtain rfl : r = r' := Option.some.inj (hleads.head?_eq.symm.trans hr')
      exact hpost
    · obtain ⟨-, hbody'⟩ | ⟨hplain, -⟩ := hleads.stems r' hr'
      · refine ⟨_, hbody'.trans hform, ?_⟩
        rw [String.toList_ofList]
        exact decode_encode_submission content
      · rw [hmethod'] at hplain
        simp at hplain
    · obtain ⟨hsame, -⟩ | ⟨-, hnone⟩ := hleads.stems r' hr'
      · exact absurd (hsame.trans hpost) hmethod'
      · exact hnone

theorem response_of_sent_eq_nil {past : List Http.Request} {content : String}
    (h : (s.exchangeFor server past (s.submissionQuery content)).sent = []) :
    ∃ failure, s.response server past content =
        .error (.request (s.target validatorPath) failure) ∧
      (failure.isBuilding = true ∨ s.timeout = 0) := by
  obtain ⟨failure, hanswer, hwhy⟩ | ⟨r, sent, outcome, -, -, hleads, hanswer⟩ :=
    s.answer_cases server past (s.submissionQuery content)
  · exact ⟨failure, by rw [response, hanswer], hwhy⟩
  · rw [Endpoint.exchangeFor, hanswer] at h
    exact absurd h hleads.ne_nil

/-- **The validator is given the bytes of the file.** A file that holds text starts one exchange,
which submits its bytes, and in which something is sent exactly when the session can post. A file
that holds none starts no exchange. -/
theorem lint_submits {s : Session} (hs : s.isClosed = false) {files : FileSystem} {path : String}
    {bytes : List UInt8} (hread : files.read path = .ok bytes) (server : Http.Server) (out : Sink)
    (t : Traffic) :
    (∀ text, Text.Utf8.encode text = bytes →
      let e := s.exchangeFor server t.requests
        { method := "POST"
          target := s.target validatorPath
          headers := [(s.crumb.name, s.crumb.value)]
          form := some [("jenkinsfile", String.ofList text)] }
      ((s.lint server files path out).run t).value.2 = t.add e ∧ Submits bytes e.sent ∧
        (e.sent ≠ [] ↔ s.CanPost validatorPath) ∧
        (e.sent = [] → ∃ failure,
          ((s.lint server files path out).run t).value.1 =
            (.error (.submit path (.request e.target failure)), out) ∧
          (failure.isBuilding = true ∨ s.timeout = 0))) ∧
    ((¬ ∃ text, Text.Utf8.encode text = bytes) →
      ∃ m, (s.lint server files path out).run t = pure ((.error (.decode path m), out), t) ∧
        IsGreatest {n | n ≤ bytes.length ∧ ∃ text, Text.Utf8.encode text = bytes.take n}
          m.index) := by
  constructor
  · rintro text rfl e
    have hvalue := value_lint server files hs path out t
    rw [readPipeline_of_encode hread] at hvalue
    have hsubmits := s.submits_exchangeFor server t.requests (String.ofList text)
    rw [String.toList_ofList] at hsubmits
    have hposted := sent_ne_nil_iff server s t.requests validatorPath
      (submission (String.ofList text))
    refine ⟨by rw [hvalue]; rfl, hsubmits, hposted, fun hsent => ?_⟩
    obtain ⟨failure, hresponse, hwhy⟩ := response_of_sent_eq_nil server s hsent
    exact ⟨failure, by simp only [hvalue, hresponse]; rfl, hwhy⟩
  · intro hbytes
    obtain ⟨m, hm, hgreatest⟩ := exists_of_readPipeline_not_text hread hbytes
    refine ⟨m, ?_, hgreatest⟩
    rw [lint, hm]
    rfl

/-- The URL of the validator on the server `a`. -/
def validatorPage : Http.Url :=
  { scheme := "http".toList, authority := some { host := "a".toList },
    path := .rooted ["pipeline-model-converter".toList, "validateJenkinsfile".toList] }

/-- A file with a byte order mark, separators, percent signs and a character outside the first
plane, and a file that ends inside a character. -/
theorem lint_submits_two_files :
    let s : Session := { url := "http://a", crumb := ⟨"Jenkins-Crumb", "1"⟩ }
    let text := "\uFEFFa&b=c+d%20 \r\n\n😀".toList
    let cut : List UInt8 := [0x61, 0xE2, 0x82]
    let files : FileSystem :=
      ⟨fun path => .ok (if path = "whole" then Text.Utf8.encode text else cut)⟩
    let server := answering "[[\"success\"]]"
    s.isClosed = false ∧ files.read "whole" = .ok (Text.Utf8.encode text) ∧
      files.read "cut" = .ok cut ∧
      s.CanPost validatorPath ∧
      (∃ e : Exchange, ((s.lint server files "whole" {}).run {}).value.2 = Traffic.add {} e ∧
        e.sent ≠ [] ∧ Submits (Text.Utf8.encode text) e.sent) ∧
      ∃ m : Text.Utf8.Malformed,
        (s.lint server files "cut" {}).run {} = pure ((.error (.decode "cut" m), {}), {}) ∧
        IsGreatest {n | n ≤ cut.length ∧ ∃ text, Text.Utf8.encode text = cut.take n} m.index := by
  intro s text cut files server
  have hcut : ¬ ∃ text, Text.Utf8.encode text = cut := by
    rintro ⟨text, htext⟩
    have hdecode : Text.Utf8.decode cut = .error ⟨1, 2, true⟩ := rfl
    rw [Text.Utf8.decode_eq_ok_iff.mpr htext] at hdecode
    cases hdecode
  have htarget : s.target validatorPath =
      "http://a/pipeline-model-converter/validateJenkinsfile" := rfl
  have hparse : Http.Url.parse (s.target validatorPath).toList = .ok validatorPage := by
    rw [htarget]
    rfl
  have hname : "Jenkins-Crumb".toList.map Char.toLower = Crumb.lowerName := rfl
  have hpost : s.CanPost validatorPath :=
    ⟨by decide, ⟨validatorPage, hparse, rfl, rfl⟩, @Crumb.isName_of_map_toLower s.crumb hname,
      by decide⟩
  obtain ⟨htraffic, hsubmits, hsent, -⟩ :=
    (@lint_submits s rfl files "whole" _ rfl server {} {}).1 text rfl
  exact ⟨rfl, rfl, rfl, hpost, ⟨_, htraffic, hsent.mpr hpost, hsubmits⟩,
    (@lint_submits s rfl files "cut" _ rfl server {} {}).2 hcut⟩

end Session

end PipelineLint
