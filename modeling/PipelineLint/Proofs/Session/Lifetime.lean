import PipelineLint.Proofs.Session.Calls

/-!
# The life of a session

A session is opened, calls are made on it in any number and order, and in the end it is given up,
which closes it if nobody did before. Its server and its crumb stay what they were when it was
opened. Closing is for good: from the first close on, every request is refused by the session
itself, and nothing is sent or recorded any more.

## The closing record

The end of a session is recorded when it comes, and that is once: by the first close, or by giving
the session up when there was none. To say so, the *diary* of a life keeps with each record the call
that made it.

That a record of this wording stands in the log once cannot be said. The path of a file is part of
the record of its verdict, and a path may be chosen so that the two wordings agree. The diary tells
such a record from the closing one, and a reader of the log does not.

## Main definitions

* `Session.performAll`, `Session.live` — calls one after the other, and a whole life
* `Session.diary` — the records of a life, each with the call that made it

## Main results

* `Session.value_performAll` — what calls leave of a session
* `Session.filter_diary` — closing is recorded once
* `Session.live_of_connect` — the life of a session, from its opening on
* `Session.closing_recorded_twice` — a log in which a verdict reads like the end of the session
-/

namespace PipelineLint

namespace Session

variable (server : Http.Server)

/-- Makes calls one after the other, and gives the session back as they leave it. -/
def performAll (s : Session) : List Call → Action Traffic Session
  | [] => pure s
  | c :: calls => do
    let s ← s.perform server c
    s.performAll calls

/-- Makes calls one after the other and then gives the session up. -/
def live (s : Session) (calls : List Call) : Action Traffic Session := do
  let s ← s.performAll server calls
  s.close

/-- The records of a life, each with the call that made it. Giving the session up counts as a
close. -/
def diary (s : Session) : List Call → Traffic → List (Call × Log.Record)
  | [], _ => s.close.records.map (.close, ·)
  | c :: calls, t =>
    let done := (s.perform server c).run t
    done.records.map (c, ·) ++ done.value.1.diary calls done.value.2

/-- What calls leave of a session. -/
theorem value_performAll (s : Session) (calls : List Call) (t : Traffic) :
    ((s.performAll server calls).run t).value.1 =
      { s with isClosed := s.isClosed || calls.any (·.isClose) } := by
  induction calls generalizing s t with
  | nil => simp [performAll]
  | cons c calls ih =>
    rw [performAll, Action.value_bind, ih, (value_perform server s t c).1]
    simp only [List.any_cons, Bool.or_assoc]

theorem records_live (s : Session) (calls : List Call) (t : Traffic) :
    ((s.live server calls).run t).records = (s.diary server calls t).map (·.2) := by
  induction calls generalizing s t with
  | nil => simp [live, performAll, diary, Function.comp_def]
  | cons c calls ih =>
    have hmore := ih ((s.perform server c).run t).value.1 ((s.perform server c).run t).value.2
    rw [live, Action.records_bind] at hmore ⊢
    rw [performAll, Action.records_bind, Action.value_bind, List.append_assoc, hmore, diary,
      List.map_append, List.map_map]
    congr 1
    exact (List.map_id _).symm

/-! ## The closing record -/

/-- An announcement never reads like the end of the session: it has a slash more than the URL. -/
theorem announced_ne_closing (s : Session) (method path : String) :
    (⟨.debug, method ++ " " ++ s.target path⟩ : Log.Record) ≠ closing s.url := by
  intro h
  have htext := congrArg (fun r : Log.Record => r.text.toList.count '/') h
  simp only [closing, Endpoint.target, String.toList_append, List.count_append] at htext
  have hphrase : "Closed session with ".toList.count '/' = 0 := by decide
  have hslash : "/".toList.count '/' = 1 := by decide
  omega

/-- **Closing is recorded once**, by the first close or by giving the session up. -/
theorem filter_diary (s : Session) (calls : List Call) (t : Traffic) :
    ((s.diary server calls t).filter (·.1.isClose)).map (·.2) =
      if s.isClosed then [] else [closing s.url] := by
  induction calls generalizing s t with
  | nil =>
    rw [diary, records_close]
    cases s.isClosed <;> rfl
  | cons c calls ih =>
    rw [diary, List.filter_append, List.map_append, ih, (value_perform server s t c).1,
      List.filter_map]
    cases hc : c.isClose with
    | false => simp [Function.comp_def, hc]
    | true =>
      -- Whether this close is recorded depends on whether it is the first one.
      have hclose : c = .close := by
        cases c with
        | close => rfl
        | _ => cases hc
      have hrecords : ((s.perform server .close).run t).records = s.close.records :=
        Action.records_lift _ _
      subst hclose
      rw [hrecords, records_close]
      cases s.isClosed <;> rfl

/-- No verdict on a file reads like the end of a session with `url`. -/
def Call.IsPlain (url : String) : Call → Prop
  | .lint _ path _ => ∀ valid, path ++ ": " ++ verdictWord valid ≠ "Closed session with " ++ url
  | _ => True

/-- What reads like the end of the session is that, unless a verdict reads so. -/
theorem isClose_of_mem_diary {s : Session} {calls : List Call} {t : Traffic}
    {entry : Call × Log.Record} (hentry : entry ∈ s.diary server calls t)
    (hplain : ∀ c ∈ calls, c.IsPlain s.url) (hclosing : entry.2 = closing s.url) :
    entry.1.isClose = true := by
  induction calls generalizing s t with
  | nil =>
    obtain ⟨r, -, rfl⟩ := List.mem_map.mp hentry
    rfl
  | cons c calls ih =>
    rcases List.mem_append.mp hentry with hfirst | hmore
    · obtain ⟨r, hr, rfl⟩ := List.mem_map.mp hfirst
      obtain rfl : r = closing s.url := hclosing
      generalize hrecord : closing s.url = r at hr
      cases Records.of_mem hr with
      | announced method path => exact absurd hrecord.symm (announced_ne_closing s method path)
      | warned _ _ text => cases congrArg Log.Record.level hrecord
      | judged valid =>
        exact absurd (congrArg Log.Record.text hrecord).symm (hplain _ List.mem_cons_self valid)
      | closed _ => rfl
    · have hurl : ((s.perform server c).run t).value.1.url = s.url := by
        rw [(value_perform server s t c).1]
      refine ih hmore ?_ (by rwa [hurl])
      rw [hurl]
      exact fun c hc => hplain c (List.mem_cons_of_mem _ hc)

/-- Unless a verdict reads like the end of the session, its end stands in the log once. -/
theorem count_records_live {s : Session} (hs : s.isClosed = false) {calls : List Call}
    (hplain : ∀ c ∈ calls, c.IsPlain s.url) (t : Traffic) :
    ((s.live server calls).run t).records.count (closing s.url) = 1 := by
  have hcount : (s.diary server calls t).countP (fun entry => entry.2 == closing s.url) =
      (s.diary server calls t).countP
        (fun entry => entry.2 == closing s.url && entry.1.isClose) := by
    refine List.countP_congr fun entry hentry => ?_
    rw [Bool.and_eq_true, beq_iff_eq]
    exact (and_iff_left_of_imp (isClose_of_mem_diary server hentry hplain)).symm
  have hclosings := filter_diary server s calls t
  rw [hs] at hclosings
  rw [records_live, List.count, List.countP_map]
  calc (s.diary server calls t).countP (fun entry => entry.2 == closing s.url)
      = (((s.diary server calls t).filter (·.1.isClose)).map (·.2)).count (closing s.url) := by
        rw [hcount, List.count, List.countP_map, List.countP_filter]
        rfl
    _ = 1 := by
        rw [hclosings]
        exact List.count_singleton_self

/-! ## A whole life -/

/-- **The life of a session**, from its opening on. -/
theorem live_of_connect {server : Http.Server} {url : String} {credentials : Option Credentials}
    {insecure : Bool} {timeout : Nat} {opening : Traffic} {s : Session}
    (h : ((connect server url credentials insecure timeout).run opening).value.1 = .ok s)
    (calls : List Call) (t : Traffic) :
    let now := ((s.performAll server calls).run t).value
    let diary := s.diary server calls t
    now.1.url = s.url ∧ now.1.crumb = s.crumb ∧
      (now.1.isClosed = true ↔ .close ∈ calls) ∧
      (.close ∈ calls →
        (∀ method path form headers, (now.1.request server method path form headers).run now.2 =
          pure (.error (.closed s.url), now.2)) ∧
        (∀ path form, (now.1.postForm server path form).run now.2 =
          pure (.error (.closed s.url), now.2)) ∧
        ∀ files path out, ((now.1.lint server files path out).run now.2).value.2 = now.2) ∧
      ((s.live server calls).run t).records = diary.map (·.2) ∧
      (diary.filter (·.1.isClose)).map (·.2) = [⟨.debug, "Closed session with " ++ s.url⟩] ∧
      ((∀ files path out, .lint files path out ∈ calls →
          ∀ valid, path ++ ": " ++ verdictWord valid ≠ "Closed session with " ++ s.url) →
        ((s.live server calls).run t).records.count
          ⟨.debug, "Closed session with " ++ s.url⟩ = 1) := by
  intro now diary
  have hopen := isClosed_of_connect h
  have hnow : now.1 = { s with isClosed := calls.any (·.isClose) } := by
    simp only [now, value_performAll, hopen, Bool.false_or]
  have hclosed : now.1.isClosed = true ↔ .close ∈ calls := by
    rw [hnow, List.any_eq_true]
    constructor
    · rintro ⟨c, hc, hclose⟩
      cases c with
      | close => exact hc
      | _ => cases hclose
    · exact fun hc => ⟨.close, hc, rfl⟩
  have hurl : now.1.url = s.url := by rw [hnow]
  refine ⟨hurl, by rw [hnow], hclosed, fun hc => ⟨?_, ?_, ?_⟩, records_live server s calls t,
    ?_, ?_⟩
  · intro method path form headers
    rw [request_of_isClosed server (hclosed.mpr hc), hurl]
    rfl
  · intro path form
    rw [postForm_of_isClosed server (hclosed.mpr hc), hurl]
    rfl
  · intro files path out
    obtain ⟨e, hlint⟩ := lint_of_isClosed server (hclosed.mpr hc) files path out now.2
    rw [hlint]
    rfl
  · rw [filter_diary, hopen]
    rfl
  · intro hpaths
    refine count_records_live server hopen (fun c hc => ?_) t
    cases c with
    | lint files path out => exact hpaths files path out hc
    | _ => trivial

/-- Gives a crumb to whoever asks for one, and calls every file valid. -/
def agreeable : Http.Server where
  reply _ r := .response ⟨200, [], .whole (Text.Utf8.encode
    (if r.method = "GET" then "Jenkins-Crumb:1".toList else "[[\"success\"]]".toList))⟩

/-- A session that is closed twice before it is given up. -/
theorem live_of_connect_closed_twice :
    ∃ s : Session, ((connect agreeable "http://a/" none false 1000).run {}).value.1 = .ok s ∧
      ((s.live agreeable [.request "GET" "" none [], .close, .postForm "" [], .close]).run
        {}).records.count ⟨.debug, "Closed session with http://a"⟩ = 1 := by
  have hconnect : ((connect agreeable "http://a/" none false 1000).run {}).value.1 =
      .ok { url := "http://a", timeout := 1000, crumb := ⟨"Jenkins-Crumb", "1"⟩ } := rfl
  refine ⟨_, hconnect, (live_of_connect hconnect _ {}).2.2.2.2.2.2 fun files path out hlint => ?_⟩
  simp at hlint

/-- A session with an agreeable server whose URL ends like the record of a verdict. -/
def ambiguous : Session :=
  { url := "http://a/x: valid", timeout := 1000, crumb := ⟨"Jenkins-Crumb", "1"⟩ }

/-- **The end of a session may seem to stand in the log twice**: here, the verdict on a file reads
like it. -/
theorem closing_recorded_twice :
    ((connect agreeable "http://a/x: valid" none false 1000).run {}).value.1 = .ok ambiguous ∧
      ((ambiguous.live agreeable
        [.lint ⟨fun _ => .ok []⟩ "Closed session with http://a/x" {}]).run {}).records.count
          ⟨.debug, "Closed session with " ++ ambiguous.url⟩ = 2 := by
  refine ⟨rfl, ?_⟩
  have hparse : Answer.parse "[[\"success\"]]" = .ok ⟨some "success", []⟩ := by cbv
  have hverdict : ((ambiguous.lint agreeable ⟨fun _ => .ok []⟩ "Closed session with http://a/x"
      {}).run {}).value.1.1 = .ok true := by
    rw [fst_lint_eq_ok_true_iff _ _ rfl]
    exact ⟨"", _, "[[\"success\"]]", _, rfl, rfl, Http.Received.text_eq_iff.mp rfl, hparse,
      fun n hn => (by cases hn), rfl⟩
  have hlint : ((ambiguous.lint agreeable ⟨fun _ => .ok []⟩ "Closed session with http://a/x"
      {}).run {}).records =
        [⟨.debug, "POST http://a/x: valid/pipeline-model-converter/validateJenkinsfile"⟩,
          ⟨.debug, "Closed session with http://a/x: valid"⟩] := by
    rw [records_lint, hverdict]
    rfl
  have hperform : ((ambiguous.perform agreeable (.lint ⟨fun _ => .ok []⟩
      "Closed session with http://a/x" {})).run {}).records =
        [⟨.debug, "POST http://a/x: valid/pipeline-model-converter/validateJenkinsfile"⟩,
          ⟨.debug, "Closed session with http://a/x: valid"⟩] := by
    rw [perform, Action.records_bind, hlint]
    rfl
  rw [records_live, diary, hperform, (value_perform agreeable ambiguous {} _).1, diary,
    records_close]
  decide

end Session

end PipelineLint
