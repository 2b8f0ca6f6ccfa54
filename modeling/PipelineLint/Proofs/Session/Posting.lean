import Mathlib.Tactic.MkIffOfInductiveProp
import PipelineLint.Proofs.Http.Address
import PipelineLint.Proofs.Http.Authorization
import PipelineLint.Proofs.Session.Crumb
import PipelineLint.Proofs.Session.Outcome

/-!
# Posting with a crumb

A session posts every form with the crumb that it was opened with. The crumb was read from what a
server answered, and a header is made of it only when something is posted. Its name can always be
sent, because it is always the same one. Its value is whatever the server wrote.

What it takes for a form to be posted at a path is `CanPost`, and neither the form nor the requests
before it are part of that.

## What is not looked at

Opening a session asks for the start of the answer and takes the rest as it is, so a line end or
another control character in the middle of the value stays there. No header can hold it. Such a
session is open like any other, and yet nothing can be posted with it, whatever the form and the
path: every attempt fails while the request is built, and nothing is sent. There is no other way for
a crumb to be useless. Without such a character, each form is sent to the server with the crumb, as
long as a request line can hold the URL, and what comes of it is up to the server.

## Main definitions

* `Crumb.IsSendable` — a header can be made of a crumb
* `Session.CanPost` — forms can be posted at a path

## Main results

* `Crumb.make_of_isSendable`, `Crumb.make_of_not_isSendable` — the header of a crumb
* `Endpoint.isRequestable_of_issued` — a server that gave a crumb is asked over the web
* `Session.sent_ne_nil_iff`, `Session.canPost_iff_of_connect` — when a form is posted
* `Session.postForm_of_connect` — what becomes of a form on an open session
* `Session.connect_takes_unsendable` — an open session that can post nothing
-/

namespace PipelineLint

/-! ## The request -/

/-- A form with one header makes a request that nothing keeps from being sent, exactly when its URL
can be asked for and the header can be made. -/
theorem Http.Request.exists_build_singleton_iff {method url : String}
    {credentials : Option Credentials} {name value : String} {form : Form} :
    (∃ r, build method url credentials [(name, value)] (some form) = .ok r ∧
      r.obstacle? = none) ↔
      (∃ u, Url.parse url.toList = .ok u ∧ u.isRequestable = true ∧
        u.splitCredentials.2.isSendable = true) ∧
      ∃ header, Header.make name value = .ok header := by
  constructor
  · rintro ⟨r, hbuilt, hobstacle⟩
    obtain ⟨hrequestable, hsendable⟩ := obstacle?_eq_none_iff.mp hobstacle
    obtain ⟨u, hparse, hurl⟩ := exists_parse_of_build hbuilt
    rw [hurl] at hrequestable hsendable
    rw [Url.isRequestable_splitCredentials] at hrequestable
    refine ⟨⟨u, hparse, hrequestable, hsendable⟩, ?_⟩
    rw [build_singleton hparse (Url.host_ne_nil_of_parse hparse hrequestable)] at hbuilt
    cases hheader : Header.make name value with
    | error failure =>
      rw [hheader] at hbuilt
      cases hbuilt
    | ok header => exact ⟨header, rfl⟩
  · rintro ⟨⟨u, hparse, hrequestable, hsendable⟩, header, hheader⟩
    have hbuilt := build_singleton hparse (Url.host_ne_nil_of_parse hparse hrequestable) method
      credentials name value form
    rw [hheader] at hbuilt
    refine ⟨_, hbuilt, obstacle?_eq_none_iff.mpr ⟨?_, hsendable⟩⟩
    exact (Url.isRequestable_splitCredentials u).trans hrequestable

/-! ## The header -/

namespace Crumb

/-- A header can be made of a crumb: no control character but a tab stands in its value. -/
def IsSendable (crumb : Crumb) : Prop :=
  ∀ c ∈ crumb.value.toList, c = '\t' ∨ Http.isControl c = false

theorem all_isValueChar_iff {crumb : Crumb} :
    crumb.value.toList.all Http.isValueChar = true ↔ crumb.IsSendable := by
  simp [IsSendable, Http.isValueChar]

instance : DecidablePred IsSendable := fun _ => decidable_of_iff _ all_isValueChar_iff

section

variable {crumb : Crumb} (hname : crumb.name.toList.map Char.toLower = lowerName)

include hname

/-- The name of a crumb can be sent: all its letters may stand in the name of a header. -/
theorem isName_of_map_toLower :
    crumb.name ≠ "" ∧ ∀ c ∈ crumb.name.toList, Http.isNameChar c = true := by
  have hempty : crumb.name ≠ "" := by
    intro hempty
    rw [hempty] at hname
    cases hname
  have hletters : lowerName.all Http.isNameChar = true := rfl
  refine ⟨hempty, fun c hc => ?_⟩
  obtain hself | hletter :=
    Text.toLower_eq_self_or (p := fun c => Http.isNameChar c = true) (by decide) c
  · rw [← hself]
    exact List.all_eq_true.mp hletters _ (hname ▸ List.mem_map_of_mem hc)
  · exact hletter

theorem make_of_map_toLower :
    Http.Header.make crumb.name crumb.value =
      if crumb.value.toList.all Http.isValueChar then .ok ⟨"jenkins-crumb", crumb.value⟩
      else .error .badHeaderValue := by
  have hlower : String.ofList lowerName = "jenkins-crumb" := rfl
  have hgood : (crumb.name.isEmpty || !crumb.name.toList.all Http.isNameChar) = false := by
    simpa using isName_of_map_toLower hname
  rw [Http.Header.make, hgood, hname, hlower]
  cases crumb.value.toList.all Http.isValueChar <;> rfl

theorem make_of_isSendable (h : crumb.IsSendable) :
    Http.Header.make crumb.name crumb.value = .ok ⟨"jenkins-crumb", crumb.value⟩ := by
  rw [make_of_map_toLower hname, if_pos (all_isValueChar_iff.mpr h)]

theorem make_of_not_isSendable (h : ¬ crumb.IsSendable) :
    Http.Header.make crumb.name crumb.value = .error .badHeaderValue := by
  rw [make_of_map_toLower hname, if_neg (mt all_isValueChar_iff.mp h)]

end

end Crumb

/-! ## The server -/

namespace Endpoint

theorem toList_target (e : Endpoint) (path : String) :
    (e.target path).toList = e.url.toList ++ '/' :: path.toList := by
  simp [target]

variable {server : Http.Server} {e : Endpoint} {past : List Http.Request}

/-- An answer is taken only from a server that is asked over the web and waited for. -/
theorem exists_parse_of_takes {q : Query} {received : Http.Received}
    (h : e.Takes server past q received) :
    e.timeout ≠ 0 ∧ ∃ u, Http.Url.parse q.target.toList = .ok u ∧ u.isRequestable = true := by
  have hanswer := (snd_answer_eq_ok_iff server e past q).mpr h
  obtain ⟨htimeout, r, hbuilt, hobstacle⟩ := Http.exists_built_of_exchange_eq_ok hanswer
  obtain ⟨u, hparse, hu⟩ := Http.Request.exists_parse_of_build hbuilt
  have hurl := (Http.Request.obstacle?_eq_none_iff.mp hobstacle).1
  rw [hu, Http.Url.isRequestable_splitCredentials] at hurl
  exact ⟨htimeout, u, hparse, hurl⟩

section

variable {crumb : Crumb} (h : e.issued server past = .ok crumb)

include h

theorem timeout_ne_zero_of_issued : e.timeout ≠ 0 := by
  obtain ⟨received, text, htakes, -, -⟩ := (issued_eq_ok_iff server e past).mp h
  exact (exists_parse_of_takes htakes).1

theorem name_of_issued : crumb.name.toList.map Char.toLower = Crumb.lowerName := by
  obtain ⟨received, text, -, -, hparse⟩ := (issued_eq_ok_iff server e past).mp h
  exact (Crumb.name_of_parse hparse).2

/-- **A server that gave a crumb is asked over the web**, at whatever path. -/
theorem isRequestable_of_issued {path : String} {u : Http.Url}
    (hu : Http.Url.parse (e.target path).toList = .ok u) : u.isRequestable = true := by
  obtain ⟨received, text, htakes, -, -⟩ := (issued_eq_ok_iff server e past).mp h
  obtain ⟨-, v, hv, hrequestable⟩ := exists_parse_of_takes htakes
  rw [crumbQuery, toList_target] at hv
  rw [toList_target] at hu
  rwa [Http.Url.isRequestable, Http.Url.scheme_eq_of_parse_append hu hv]

/-! ## What is posted -/

section

variable {path : String} {u : Http.Url} (hu : Http.Url.parse (e.target path).toList = .ok u)
  (form : Http.Form)

include hu

/-- **A form with a crumb can be built into a request** when a header can be made of the crumb, and
the request bears that header. -/
theorem exists_build_of_issued (hcrumb : crumb.IsSendable) :
    ∃ r, Http.Request.build "POST" (e.target path) e.credentials [(crumb.name, crumb.value)]
        (some form) = .ok r ∧
      r.url = u.splitCredentials.2 ∧ r.url.isRequestable = true ∧
      ⟨"jenkins-crumb", crumb.value⟩ ∈ r.headers := by
  have hrequestable := isRequestable_of_issued h hu
  have hbuilt := Http.Request.build_singleton hu (Http.Url.host_ne_nil_of_parse hu hrequestable)
    "POST" e.credentials crumb.name crumb.value form
  rw [Crumb.make_of_isSendable (name_of_issued h) hcrumb] at hbuilt
  refine ⟨_, hbuilt, rfl, (Http.Url.isRequestable_splitCredentials u).trans hrequestable, ?_⟩
  have hother : "jenkins-crumb" ≠ "content-type" := by decide
  refine Http.Request.mem_headers_withForm ?_ hother form
  exact List.mem_append_right _ (List.mem_singleton_self _)

theorem build_of_issued_of_not_isSendable (hcrumb : ¬ crumb.IsSendable) :
    Http.Request.build "POST" (e.target path) e.credentials [(crumb.name, crumb.value)]
      (some form) = .error .badHeaderValue := by
  rw [Http.Request.build_singleton hu
    (Http.Url.host_ne_nil_of_parse hu (isRequestable_of_issued h hu)),
    Crumb.make_of_not_isSendable (name_of_issued h) hcrumb]
  rfl

end

end

end Endpoint

namespace Session

/-- Forms can be posted at a path: somebody waits for the answer, the path makes a URL that can be
asked for, and a header can be made of the crumb. -/
@[mk_iff]
structure CanPost (s : Session) (path : String) : Prop where
  timeout : s.timeout ≠ 0
  url : ∃ u, Http.Url.parse (s.target path).toList = .ok u ∧ u.isRequestable = true ∧
    u.splitCredentials.2.isSendable = true
  name : s.crumb.name ≠ "" ∧ ∀ c ∈ s.crumb.name.toList, Http.isNameChar c = true
  value : s.crumb.IsSendable

/-- **When a form is posted.** Neither what the form holds nor what the server saw before has a say
in it. -/
theorem sent_ne_nil_iff (server : Http.Server) (s : Session) (past : List Http.Request)
    (path : String) (form : Http.Form) :
    (s.exchangeFor server past
      ⟨"POST", s.target path, [(s.crumb.name, s.crumb.value)], some form⟩).sent ≠ [] ↔
        s.CanPost path := by
  have hcrumb : (∀ c ∈ s.crumb.value.toList, Http.isValueChar c = true) ↔ s.crumb.IsSendable := by
    rw [← List.all_eq_true, Crumb.all_isValueChar_iff]
  rw [Endpoint.exchangeFor, Endpoint.answer, Http.exchange_ne_nil_iff,
    Http.Request.exists_build_singleton_iff, Http.Header.exists_make_iff, hcrumb, canPost_iff]

/-- What opening a session leaves to be asked before something can be posted with it: whether a
header can be made of the crumb, and whether a request line can hold the URL. -/
theorem canPost_iff_of_connect {server : Http.Server} {url : String}
    {credentials : Option Credentials} {insecure : Bool} {timeout : Nat} {opening : Traffic}
    {s : Session}
    (h : ((connect server url credentials insecure timeout).run opening).value.1 = .ok s)
    {path : String} {u : Http.Url} (hu : Http.Url.parse (s.target path).toList = .ok u) :
    s.CanPost path ↔ s.crumb.IsSendable ∧ u.splitCredentials.2.isSendable = true := by
  have hissued := issued_toEndpoint_of_connect h
  constructor
  · rintro ⟨-, ⟨v, hv, -, hsendable⟩, -, hvalue⟩
    obtain rfl : u = v := Except.ok.inj (hu.symm.trans hv)
    exact ⟨hvalue, hsendable⟩
  · rintro ⟨hvalue, hsendable⟩
    exact ⟨Endpoint.timeout_ne_zero_of_issued hissued,
      ⟨u, hu, Endpoint.isRequestable_of_issued hissued hu, hsendable⟩,
      Crumb.isName_of_map_toLower (Endpoint.name_of_issued hissued), hvalue⟩

/-- **What becomes of a form** that is posted on an open session, at a path that makes a URL. When
no header can be made of the session's crumb, the request cannot be built, and nothing is sent.
Otherwise a request with the crumb and the form is built. It is sent unless no request line can hold
its URL, and once it is sent, no later failure is one to build a request, unless the server sends it
on to nowhere. -/
theorem postForm_of_connect {server : Http.Server} {url : String}
    {credentials : Option Credentials} {insecure : Bool} {timeout : Nat} {opening : Traffic}
    {s : Session}
    (h : ((connect server url credentials insecure timeout).run opening).value.1 = .ok s)
    {path : String} {u : Http.Url} (hu : Http.Url.parse (s.target path).toList = .ok u)
    (form : Http.Form) (t : Traffic) :
    let target := s.target path
    let asked := u.splitCredentials.2
    let crumb := [(s.crumb.name, s.crumb.value)]
    let posted := ((s.postForm server path form).run t).value
    (s.crumb.IsSendable →
      ∃ r, Http.Request.build "POST" target s.credentials crumb (some form) = .ok r ∧
        r.method = "POST" ∧ r.url = asked ∧ r.body = some (String.ofList form.encode) ∧
        ⟨"jenkins-crumb", s.crumb.value⟩ ∈ r.headers ∧
        (asked.isSendable = true → ∃ more,
          posted.2 = t.add ⟨"POST", target, crumb, some form, r :: more⟩ ∧
          ∀ e, posted.1 = .error e → ∃ failure, e = .request target failure ∧
            (failure.isBuilding = true →
              ∃ next, Http.LosesTo server t.requests (r :: more) next ∧
                failure = .badScheme next.url.render)) ∧
        (asked.isSendable = false →
          posted = (.error (.request target (.notSendable asked.render)),
            t.add ⟨"POST", target, crumb, some form, []⟩))) ∧
    (¬ s.crumb.IsSendable →
      posted = (.error (.request target .badHeaderValue),
        t.add ⟨"POST", target, crumb, some form, []⟩)) := by
  intro target asked crumb posted
  have hissued := issued_toEndpoint_of_connect h
  have htimeout := Endpoint.timeout_ne_zero_of_issued hissued
  have hposted : posted =
      let answer := Http.exchange server s.timeout t.requests
        (Http.Request.build "POST" target s.credentials crumb (some form))
      (answer.2.mapError (.request target),
        t.add ⟨"POST", target, crumb, some form, answer.1⟩) :=
    value_request server (isClosed_of_connect h) "POST" path (some form) crumb t
  refine ⟨fun hcrumb => ?_, fun hcrumb => ?_⟩
  · obtain ⟨r, hbuilt, hr, hrequestable, hheader⟩ :=
      Endpoint.exists_build_of_issued hissued hu form hcrumb
    obtain ⟨hmethod, hbody⟩ := Http.Request.of_build hbuilt
    rw [hbuilt] at hposted
    refine ⟨r, hbuilt, hmethod, hr, hbody, hheader, fun hsendable => ?_, fun hsendable => ?_⟩
    · have hr' : r.url.isSendable = true := hr ▸ hsendable
      obtain ⟨more, outcome, hleads, hexchange⟩ := Http.exists_leads_of_exchange server htimeout
        t.requests (Http.Request.obstacle?_eq_none_iff.mpr ⟨hrequestable, hr'⟩)
      rw [hexchange] at hposted
      rw [hposted]
      refine ⟨more, rfl, fun e he => ?_⟩
      cases hfailed : outcome.bind Http.judgeStatus with
      | ok received => simp [hfailed] at he
      | error failure =>
        refine ⟨failure, by simpa [hfailed] using he.symm, fun hbuilding => ?_⟩
        exact hleads.exists_losesTo (Http.eq_error_of_bind_judgeStatus hfailed hbuilding) hbuilding
    · have hobstacle : r.obstacle? = some (.notSendable asked.render) := by
        rw [hr] at hrequestable
        rw [Http.Request.obstacle?, hr, hrequestable, hsendable]
        rfl
      rw [hposted, Http.exchange, if_neg htimeout, hobstacle]
      rfl
  · rw [hposted, Endpoint.build_of_issued_of_not_isSendable hissued hu form hcrumb]
    rfl

/-- Answers everything with a text. -/
def answering (text : String) : Http.Server where
  reply _ _ := .response ⟨200, [], .whole (Text.Utf8.encode text.toList)⟩

/-- The URL of a page on the server `a`. -/
def page : Http.Url :=
  { scheme := "http".toList, authority := some { host := "a".toList },
    path := .rooted ["post".toList] }

/-- A form that is posted with a crumb without a line end in it. -/
theorem postForm_of_connect_plain :
    ∃ s : Session,
      ((connect (answering "Jenkins-Crumb:1") "http://a/" none false 1000).run {}).value.1 =
        .ok s ∧
      Http.Url.parse (s.target "post").toList = .ok page ∧
      s.crumb.IsSendable ∧ page.splitCredentials.2.isSendable = true ∧
      ∃ r more, r.body = some "b=1" ∧ ⟨"jenkins-crumb", "1"⟩ ∈ r.headers ∧
        ((s.postForm (answering "Jenkins-Crumb:1") "post" [("b", "1")]).run {}).value.2 =
          Traffic.add {} ⟨"POST", "http://a/post", [("Jenkins-Crumb", "1")], some [("b", "1")],
            r :: more⟩ := by
  have hconnect : ((connect (answering "Jenkins-Crumb:1") "http://a/" none false 1000).run
      {}).value.1 =
        .ok { url := "http://a", timeout := 1000, crumb := ⟨"Jenkins-Crumb", "1"⟩ } := rfl
  have hparse : Http.Url.parse
      (Endpoint.target { url := "http://a", timeout := 1000 } "post").toList = .ok page := rfl
  have hcrumb : Crumb.IsSendable ⟨"Jenkins-Crumb", "1"⟩ := by decide
  obtain ⟨r, -, -, -, hbody, hheader, hsent, -⟩ :=
    (postForm_of_connect hconnect hparse [("b", "1")] {}).1 hcrumb
  obtain ⟨more, hadded, -⟩ := hsent rfl
  exact ⟨_, hconnect, hparse, hcrumb, rfl, r, more, hbody, hheader, hadded⟩

/-- **An open session that can post nothing**: its server put a line end into the crumb. -/
theorem connect_takes_unsendable :
    ∃ s : Session,
      ((connect (answering "Jenkins-Crumb:a\nb") "http://a/" none false 1000).run {}).value.1 =
        .ok s ∧
      Http.Url.parse (s.target "post").toList = .ok page ∧
      page.splitCredentials.2.isSendable = true ∧
      ∀ form t, ((s.postForm (answering "Jenkins-Crumb:a\nb") "post" form).run t).value =
        (.error (.request "http://a/post" .badHeaderValue),
          t.add ⟨"POST", "http://a/post", [("Jenkins-Crumb", "a\nb")], some form, []⟩) := by
  have hconnect : ((connect (answering "Jenkins-Crumb:a\nb") "http://a/" none false 1000).run
      {}).value.1 =
        .ok { url := "http://a", timeout := 1000, crumb := ⟨"Jenkins-Crumb", "a\nb"⟩ } := rfl
  exact ⟨_, hconnect, rfl, rfl, fun form t => rfl⟩

end Session

end PipelineLint
