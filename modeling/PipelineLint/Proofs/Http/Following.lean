import PipelineLint.Http.Exchange

/-!
# What an exchange sends and how it ends

A request is sent, and the server may send it on, again and again. `Leads` lists what one request
can come to: it fails, it is answered for good, or it is sent on, and then the rest is about the
next request. Everything said here about the requests of an exchange and about its end is an
induction on that list, and `leads_follow` is the only place where requests are followed.

## What becomes of a request that is sent on

The next request is the same one for another place, or it asks plainly, without a body. Once plain,
always plain. So among all requests of an exchange there are only two bodies: the one that was
meant, and none.

## Main definitions

* `Http.Leads` — what a request leads to
* `Http.Request.Stems` — a request asks for what an earlier one asked for, or plainly
* `Http.EndsWith` — the last request of an exchange was answered and not sent on
* `Http.LosesTo` — the last request of an exchange was sent on to nowhere

## Main results

* `Http.leads_follow` — what following does
* `Http.Leads.stems` — what is sent
* `Http.Leads.eq_ok_iff` — a request succeeds exactly when what is sent ends with an answer
* `Http.Leads.exists_losesTo` — a failure to build a request, once one is sent
* `Http.Request.exists_of_build` — what a request is built from
* `Http.exchange_cases` — an exchange, from the request that was built to its outcome
* `Http.exchange_ne_nil_iff` — when something is sent
-/

namespace PipelineLint.Http

/-- What the request `r` leads to when the server saw `past` before it and it is sent on at most
`hops` times: the requests that are sent, and the outcome. -/
inductive Leads (server : Server) :
    Nat → List Request → Request → List Request → Except Failure Received → Prop
  | unsent {hops past r detail} (hreply : server.reply past r = .unsent detail) :
      Leads server hops past r [r] (.error (.unsent r.url.render detail))
  | timedOut {hops past r detail} (hreply : server.reply past r = .timedOut detail) :
      Leads server hops past r [r] (.error (.timedOut r.url.render detail))
  | answered {hops past r a} (hreply : server.reply past r = .response a)
      (hlast : r.sentOn? a = none) :
      Leads server hops past r [r] (.ok ⟨r, a⟩)
  | tooFar {past r a next} (hreply : server.reply past r = .response a)
      (hnext : r.sentOn? a = some next) :
      Leads server 0 past r [r] (.error (.tooManyRedirects r.url.render))
  | lost {hops past r a next} (hreply : server.reply past r = .response a)
      (hnext : r.sentOn? a = some next) (hurl : next.url.isRequestable = false) :
      Leads server (hops + 1) past r [r] (.error (.badScheme next.url.render))
  | sentOn {hops past r a next sent outcome} (hreply : server.reply past r = .response a)
      (hnext : r.sentOn? a = some next) (hurl : next.url.isRequestable = true)
      (hmore : Leads server hops (past ++ [r]) next sent outcome) :
      Leads server (hops + 1) past r (r :: sent) outcome

variable {server : Server}

theorem leads_follow (hops : Nat) (past : List Request) (r : Request) :
    Leads server hops past r (follow server hops past r).1 (follow server hops past r).2 := by
  induction hops generalizing past r with
  | zero =>
    rw [follow]
    cases hreply : server.reply past r with
    | unsent detail => exact .unsent hreply
    | timedOut detail => exact .timedOut hreply
    | response a =>
      cases hnext : r.sentOn? a with
      | none => simpa [hnext] using .answered hreply hnext
      | some next => simpa [hnext] using .tooFar hreply hnext
  | succ hops ih =>
    rw [follow]
    cases hreply : server.reply past r with
    | unsent detail => exact .unsent hreply
    | timedOut detail => exact .timedOut hreply
    | response a =>
      cases hnext : r.sentOn? a with
      | none => simpa [hnext] using .answered hreply hnext
      | some next =>
        cases hurl : next.url.isRequestable with
        | false => simpa [hnext, hurl] using .lost hreply hnext hurl
        | true => simpa [hnext, hurl] using .sentOn hreply hnext hurl (ih (past ++ [r]) next)

/-! ## The requests that are sent -/

/-- `r` asks for something without a body. -/
def Request.IsPlain (r : Request) : Prop := (r.method = "GET" ∨ r.method = "HEAD") ∧ r.body = none

/-- `r` asks for what `origin` asked for, with the same body, or it asks plainly. -/
def Request.Stems (origin r : Request) : Prop :=
  r.method = origin.method ∧ r.body = origin.body ∨ r.IsPlain

theorem Request.isPlain_plain (r : Request) : r.plain.IsPlain := by
  refine ⟨?_, rfl⟩
  by_cases h : r.method = "HEAD"
  · exact .inr (if_pos h)
  · exact .inl (if_neg h)

theorem Request.stems_of_sentOn? {r next : Request} {a : Response}
    (h : r.sentOn? a = some next) : r.Stems next := by
  rw [sentOn?] at h
  split at h
  · obtain ⟨url, -, rfl⟩ := Option.map_eq_some_iff.mp h
    exact .inr r.isPlain_plain
  · split at h
    · obtain ⟨url, -, rfl⟩ := Option.map_eq_some_iff.mp h
      exact .inl ⟨rfl, rfl⟩
    · cases h

theorem Request.Stems.trans {r r' r'' : Request} (h : r.Stems r') (h' : r'.Stems r'') :
    r.Stems r'' := by
  rcases h' with ⟨hmethod, hbody⟩ | hplain
  · rcases h with ⟨hmethod', hbody'⟩ | hplain
    · exact .inl ⟨hmethod.trans hmethod', hbody.trans hbody'⟩
    · exact .inr (by rwa [IsPlain, hmethod, hbody])
  · exact .inr hplain

section

variable {hops : Nat} {past sent : List Request} {r : Request} {received : Received}
  {outcome : Except Failure Received}

theorem Leads.head?_eq (h : Leads server hops past r sent outcome) : sent.head? = some r := by
  cases h <;> rfl

theorem Leads.ne_nil (h : Leads server hops past r sent outcome) : sent ≠ [] := by
  rintro rfl
  cases h.head?_eq

theorem Leads.stems (h : Leads server hops past r sent outcome) : ∀ r' ∈ sent, r.Stems r' := by
  have hself (r : Request) : ∀ r' ∈ [r], r.Stems r' := fun r' hr' =>
    .inl (by simp [List.mem_singleton.mp hr'])
  induction h with
  | unsent | timedOut | answered | tooFar | lost => exact hself _
  | sentOn _ hnext _ _ ih =>
    intro r' hr'
    rcases List.mem_cons.mp hr' with rfl | hr'
    · exact hself _ _ (List.mem_singleton_self _)
    · exact (Request.stems_of_sentOn? hnext).trans (ih r' hr')

/-! ## The end -/

/-- The last of the requests `sent`, which the server saw after `past`, was answered, and the answer
sent it nowhere. -/
def EndsWith (server : Server) (past sent : List Request) (received : Received) : Prop :=
  ∃ before, sent = before ++ [received.request] ∧
    server.reply (past ++ before) received.request = .response received.response ∧
    received.request.sentOn? received.response = none

theorem Leads.endsWith (h : Leads server hops past r sent outcome) (hok : outcome = .ok received) :
    EndsWith server past sent received := by
  induction h with
  | unsent | timedOut | tooFar | lost => cases hok
  | answered hreply hlast =>
    cases hok
    exact ⟨[], rfl, by rwa [List.append_nil], hlast⟩
  | @sentOn _ _ r _ _ _ _ _ _ _ _ ih =>
    obtain ⟨before, rfl, hreply, hlast⟩ := ih hok
    exact ⟨r :: before, rfl, by rwa [List.append_assoc] at hreply, hlast⟩

theorem EndsWith.of_singleton (h : EndsWith server past [r] received) :
    r = received.request ∧ server.reply past r = .response received.response ∧
      r.sentOn? received.response = none := by
  obtain ⟨before, hsent, hreply, hlast⟩ := h
  cases before with
  | nil =>
    obtain rfl : r = received.request := by simpa using hsent
    exact ⟨rfl, by rwa [List.append_nil] at hreply, hlast⟩
  | cons r' before => simp at hsent

theorem EndsWith.of_cons (hsent : sent ≠ []) (h : EndsWith server past (r :: sent) received) :
    EndsWith server (past ++ [r]) sent received := by
  obtain ⟨before, hall, hreply, hlast⟩ := h
  cases before with
  | nil => exact absurd (List.cons.inj hall).2 hsent
  | cons r' before =>
    obtain ⟨rfl, rfl⟩ := List.cons.inj hall
    exact ⟨before, rfl, by rwa [List.append_assoc], hlast⟩

theorem Leads.eq_ok_of_endsWith (h : Leads server hops past r sent outcome)
    (hends : EndsWith server past sent received) : outcome = .ok received := by
  induction h with
  | unsent hreply | timedOut hreply => cases hreply.symm.trans hends.of_singleton.2.1
  | answered hreply _ =>
    obtain ⟨rfl, hresponse, -⟩ := hends.of_singleton
    cases hreply.symm.trans hresponse
    rfl
  | tooFar hreply hnext | lost hreply hnext =>
    obtain ⟨-, hresponse, hlast⟩ := hends.of_singleton
    cases hreply.symm.trans hresponse
    cases hnext.symm.trans hlast
  | sentOn _ _ _ hmore ih => exact ih (hends.of_cons hmore.ne_nil)

/-- **A request succeeds exactly when what is sent for it ends with an answer.** -/
theorem Leads.eq_ok_iff (h : Leads server hops past r sent outcome) :
    outcome = .ok received ↔ EndsWith server past sent received :=
  ⟨h.endsWith, h.eq_ok_of_endsWith⟩

/-- The last of the requests `sent`, which the server saw after `past`, was sent on as `next`, and
`next` goes where no request can be sent to. -/
def LosesTo (server : Server) (past sent : List Request) (next : Request) : Prop :=
  ∃ before last a, sent = before ++ [last] ∧ server.reply (past ++ before) last = .response a ∧
    last.sentOn? a = some next ∧ next.url.isRequestable = false

/-- A request is never given up as one that cannot be built, unless the server sends it on to a
place that no request can be sent to. -/
theorem Leads.exists_losesTo {failure : Failure} (h : Leads server hops past r sent outcome)
    (hfailure : outcome = .error failure) (hbuilding : failure.isBuilding = true) :
    ∃ next, LosesTo server past sent next ∧ failure = .badScheme next.url.render := by
  induction h with
  | unsent | timedOut | tooFar =>
    cases hfailure
    cases hbuilding
  | answered => cases hfailure
  | @lost _ _ r a next hreply hnext hurl =>
    cases hfailure
    exact ⟨next, ⟨[], r, a, rfl, by rwa [List.append_nil], hnext, hurl⟩, rfl⟩
  | @sentOn _ _ r _ _ _ _ _ _ _ _ ih =>
    obtain ⟨next, ⟨before, last, a, rfl, hreply, hlost⟩, heq⟩ := ih hfailure
    exact ⟨next, ⟨r :: before, last, a, rfl, by rwa [List.append_assoc] at hreply, hlost⟩, heq⟩

end

/-! ## Exchanges -/

section

variable {method url : String} {credentials : Option Credentials}
  {headers : List (String × String)} {form : Option Form} {r : Request}
  (h : Request.build method url credentials headers form = .ok r)

include h

/-- What a request is built from: a URL without the credentials in it, which become headers, the
headers that were given, and the form. -/
theorem Request.exists_of_build :
    ∃ u made, Url.parse url.toList = .ok u ∧
      headers.mapM (fun header => Header.make header.1 header.2) = .ok made ∧
      let access := (u.splitCredentials.1.toList ++ credentials.toList).map authorization
      let plain : Request := { method, url := u.splitCredentials.2, headers := access ++ made }
      r = form.elim plain plain.withForm := by
  rw [build] at h
  split at h
  · cases h
  · next u hparse =>
    split at h
    · cases h
    · dsimp only at h
      split at h
      · cases h
      · next made hmade => exact ⟨u, made, hparse, hmade, (Except.ok.inj h).symm⟩

/-- What a request was built for. -/
theorem Request.of_build :
    r.method = method ∧ r.body = form.map fun form => String.ofList form.encode := by
  obtain ⟨u, made, -, -, rfl⟩ := exists_of_build h
  cases form with
  | none => exact ⟨rfl, rfl⟩
  | some form => exact ⟨rfl, rfl⟩

/-- The URL of a built request is the one that it was built for, without the credentials in it. -/
theorem Request.exists_parse_of_build :
    ∃ u, Url.parse url.toList = .ok u ∧ r.url = u.splitCredentials.2 := by
  obtain ⟨u, made, hparse, -, rfl⟩ := exists_of_build h
  refine ⟨u, hparse, ?_⟩
  cases form with
  | none => rfl
  | some form => rfl

end

theorem Request.mem_headers_withForm {r : Request} {header : Header} (hheader : header ∈ r.headers)
    (hname : header.name ≠ "content-type") (form : Form) : header ∈ (r.withForm form).headers :=
  List.mem_append_left _ (List.mem_filter.mpr ⟨hheader, by simpa using hname⟩)

/-- A form with one header can be built as soon as its URL and that header can. -/
theorem Request.build_singleton {url : String} {u : Url} (hparse : Url.parse url.toList = .ok u)
    (hhost : u.host ≠ []) (method : String) (credentials : Option Credentials)
    (name value : String) (form : Form) :
    build method url credentials [(name, value)] (some form) =
      (Header.make name value).map fun header =>
        let access := (u.splitCredentials.1.toList ++ credentials.toList).map authorization
        withForm { method, url := u.splitCredentials.2, headers := access ++ [header] } form := by
  rw [build, hparse]
  simp only [List.isEmpty_iff, hhost, if_false, List.mapM_cons, List.mapM_nil]
  cases Header.make name value with
  | error failure => rfl
  | ok header => rfl

theorem Header.exists_make_iff {name value : String} :
    (∃ header, make name value = .ok header) ↔
      (name ≠ "" ∧ ∀ c ∈ name.toList, isNameChar c = true) ∧
        ∀ c ∈ value.toList, isValueChar c = true := by
  have hname : (name.isEmpty || !name.toList.all isNameChar) = false ↔
      name ≠ "" ∧ ∀ c ∈ name.toList, isNameChar c = true := by simp
  have hvalue : (!value.toList.all isValueChar) = false ↔
      ∀ c ∈ value.toList, isValueChar c = true := by simp
  rw [← hname, ← hvalue, make]
  cases name.isEmpty || !name.toList.all isNameChar with
  | true => simp
  | false => cases !value.toList.all isValueChar <;> simp

theorem Header.isBuilding_of_make {name value : String} {failure : Failure}
    (h : make name value = .error failure) : failure.isBuilding = true := by
  rw [make] at h
  split at h
  · cases h
    rfl
  · split at h
    · cases h
      rfl
    · cases h

theorem Header.isBuilding_of_mapM_make {headers : List (String × String)} {failure : Failure}
    (h : headers.mapM (fun header => make header.1 header.2) = .error failure) :
    failure.isBuilding = true := by
  induction headers with
  | nil => cases h
  | cons header headers ih =>
    rw [List.mapM_cons] at h
    cases hfirst : make header.1 header.2 with
    | error failure' =>
      rw [hfirst] at h
      obtain rfl : failure' = failure := Except.error.inj h
      exact isBuilding_of_make hfirst
    | ok first =>
      cases hmore : headers.mapM (fun header => make header.1 header.2) with
      | error failure' =>
        rw [hfirst, hmore] at h
        obtain rfl : failure' = failure := Except.error.inj h
        exact ih hmore
      | ok more =>
        rw [hfirst, hmore] at h
        cases h

theorem Request.isBuilding_of_build {method url : String} {credentials : Option Credentials}
    {headers : List (String × String)} {form : Option Form} {failure : Failure}
    (h : build method url credentials headers form = .error failure) :
    failure.isBuilding = true := by
  rw [build] at h
  split at h
  · cases h
    rfl
  · split at h
    · cases h
      rfl
    · dsimp only at h
      split at h
      next hheaders =>
        cases h
        exact Header.isBuilding_of_mapM_make hheaders
      · cases h

theorem Request.isBuilding_of_obstacle? {r : Request} {failure : Failure}
    (h : r.obstacle? = some failure) : failure.isBuilding = true := by
  rw [obstacle?] at h
  split at h
  · cases h
    rfl
  · split at h
    · cases h
      rfl
    · cases h

theorem Request.obstacle?_eq_none_iff {r : Request} :
    r.obstacle? = none ↔ r.url.isRequestable = true ∧ r.url.isSendable = true := by
  rw [obstacle?]
  cases r.url.isRequestable <;> cases r.url.isSendable <;> simp

theorem exchange_cases (server : Server) (patience : Nat) (past : List Request)
    (built : Except Failure Request) :
    (∃ failure, exchange server patience past built = ([], .error failure) ∧
      (built = .error failure ∨
        ∃ r, built = .ok r ∧ (patience = 0 ∨ r.obstacle? = some failure))) ∨
    ∃ r sent outcome, built = .ok r ∧ Leads server server.hops past r sent outcome ∧
      exchange server patience past built = (sent, outcome.bind judgeStatus) := by
  cases built with
  | error failure => exact .inl ⟨failure, rfl, .inl rfl⟩
  | ok r =>
    rw [exchange]
    split
    next hpatience => exact .inl ⟨_, rfl, .inr ⟨r, rfl, .inl hpatience⟩⟩
    next =>
      cases hobstacle : r.obstacle? with
      | some failure => exact .inl ⟨failure, rfl, .inr ⟨r, rfl, .inr hobstacle⟩⟩
      | none => exact .inr ⟨r, _, _, rfl, leads_follow server.hops past r, rfl⟩

/-- A request that can be sent is sent, and what comes of it is up to the server. -/
theorem exists_leads_of_exchange (server : Server) {patience : Nat} (hpatience : patience ≠ 0)
    (past : List Request) {r : Request} (hr : r.obstacle? = none) :
    ∃ more outcome, Leads server server.hops past r (r :: more) outcome ∧
      exchange server patience past (.ok r) = (r :: more, outcome.bind judgeStatus) := by
  have hleads : Leads server server.hops past r (follow server server.hops past r).1
      (follow server server.hops past r).2 := leads_follow server.hops past r
  obtain ⟨more, hsent⟩ := List.head?_eq_some_iff.mp hleads.head?_eq
  rw [hsent] at hleads
  refine ⟨more, _, hleads, ?_⟩
  rw [exchange, if_neg hpatience, hr, ← hsent]

/-- **When something is sent**: somebody waits for an answer, and there is a request that nothing
keeps from being sent. The server has no say in it. -/
theorem exchange_ne_nil_iff {server : Server} {patience : Nat} {past : List Request}
    {built : Except Failure Request} :
    (exchange server patience past built).1 ≠ [] ↔
      patience ≠ 0 ∧ ∃ r, built = .ok r ∧ r.obstacle? = none := by
  cases built with
  | error failure => simp [exchange]
  | ok r =>
    by_cases hpatience : patience = 0
    · simp [exchange, hpatience]
    · cases hobstacle : r.obstacle? with
      | some failure => simp [exchange, hpatience, hobstacle]
      | none =>
        obtain ⟨more, outcome, -, hexchange⟩ :=
          exists_leads_of_exchange server hpatience past hobstacle
        simp [hexchange, hpatience, hobstacle]

/-- An answer comes from a request that could be built and sent, and was waited for. -/
theorem exists_built_of_exchange_eq_ok {patience : Nat} {past : List Request}
    {built : Except Failure Request} {received : Received}
    (h : (exchange server patience past built).2 = .ok received) :
    patience ≠ 0 ∧ ∃ r, built = .ok r ∧ r.obstacle? = none := by
  obtain ⟨failure, hexchange, -⟩ | ⟨r, sent, outcome, -, hleads, hexchange⟩ :=
    exchange_cases server patience past built
  · rw [hexchange] at h
    cases h
  · have hsent : (exchange server patience past built).1 ≠ [] := by
      rw [hexchange]
      exact hleads.ne_nil
    exact exchange_ne_nil_iff.mp hsent

theorem judgeStatus_eq (received : Received) :
    judgeStatus received =
      if 400 ≤ received.response.status ∧ received.response.status < 600 then
        .error (.status received.response.status received.request.url.render)
      else .ok received := by
  have herror : (isClientError received.response.status ||
      isServerError received.response.status) = true ↔
        400 ≤ received.response.status ∧ received.response.status < 600 := by
    simp only [isClientError, isServerError, Bool.or_eq_true, Bool.and_eq_true, decide_eq_true_eq]
    omega
  simp only [judgeStatus, herror]

theorem bind_judgeStatus_eq_ok_iff {outcome : Except Failure Received} {received : Received} :
    outcome.bind judgeStatus = .ok received ↔ outcome = .ok received ∧
      ¬ (400 ≤ received.response.status ∧ received.response.status < 600) := by
  cases outcome with
  | error failure => simp [Except.bind]
  | ok received' =>
    rw [Except.bind, judgeStatus_eq, Except.ok.injEq]
    split
    next hstatus =>
      refine ⟨fun h => (by cases h), ?_⟩
      rintro ⟨rfl, hnot⟩
      exact absurd hstatus hnot
    next hstatus =>
      rw [Except.ok.injEq]
      refine ⟨?_, And.left⟩
      rintro rfl
      exact ⟨rfl, hstatus⟩

/-- An answer with an error status is no failure to build a request. -/
theorem eq_error_of_bind_judgeStatus {outcome : Except Failure Received} {failure : Failure}
    (h : outcome.bind judgeStatus = .error failure) (hbuilding : failure.isBuilding = true) :
    outcome = .error failure := by
  cases outcome with
  | error failure' => exact h
  | ok received =>
    rw [Except.bind, judgeStatus_eq] at h
    split at h
    · cases h
      cases hbuilding
    · cases h

end PipelineLint.Http
