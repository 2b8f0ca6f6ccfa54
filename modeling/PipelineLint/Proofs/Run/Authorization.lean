import PipelineLint.Proofs.Http.Authorization
import PipelineLint.Proofs.Run.Trace
import PipelineLint.Proofs.Session.Crumb
import PipelineLint.Proofs.Session.Lifetime
import PipelineLint.Proofs.Session.Outcome
import PipelineLint.Proofs.Settings.Sources

/-!
# Who a run speaks for

All requests of a run go through one endpoint, and each of them bears the endpoint's credentials:
the question for the crumb, and every submission. No crumb can stand in the way, because the header
of a crumb never has the name of the one for credentials.

## The password alone

Without a user's name there are no credentials, whatever the password. Then the password is nowhere
in the run, and that is a statement about two runs: they differ in nothing when all else that they
find is the same. A password comes from the environment or from a profile file; so the two runs may
find different files, as long as the same ones exist and the linted files are the same.

## Main definitions

* `Endpoint.Asks` — a query is one of those that a run makes
* `Surroundings.LikeButForPassword` — all that a run finds is the same, a password apart

## Main results

* `run_asks` — the exchanges of a run
* `CommandLine.Arguments.access_of_mem_sent` — the credentials of what is sent for a query
* `Surroundings.LikeButForPassword.run_eq` — a run without credentials does not depend on the
  password
* `run_authorizes` — the credentials of every request of a run
-/

namespace PipelineLint

theorem Credentials.ofParts?_of_nobody {username password : Option String}
    (h : username = none ∨ username = some "") : ofParts? username password = none := by
  rcases h with rfl | rfl <;> rfl

/-! ## The queries of a run -/

namespace Endpoint

/-- A query for the crumb issuer or the validator, which names no header but that of a crumb. -/
structure Asks (e : Endpoint) (q : Query) : Prop where
  target : ∃ path ∈ [Crumb.issuerPath, validatorPath], q.target = e.target path
  headers : ∀ given ∈ q.headers, given.1.toList.map Char.toLower = Crumb.lowerName

theorem asks_crumbQuery (e : Endpoint) : e.Asks e.crumbQuery :=
  ⟨⟨Crumb.issuerPath, by simp, rfl⟩, by simp [crumbQuery]⟩

theorem exists_eq_exchangeFor {e : Endpoint} {server : Http.Server} {past : List Http.Request}
    {started : List Exchange} (h : e.SentFor server past started) :
    ∀ x ∈ started, ∃ past', x = e.exchangeFor server past' x.query := by
  induction started generalizing past with
  | nil => simp
  | cons first started ih =>
    intro x hx
    rcases List.mem_cons.mp hx with rfl | hx
    · exact ⟨past, h.1⟩
    · exact ih h.2 x hx

end Endpoint

theorem Session.asks_of_mem_submissions {files : FileSystem} {s : Session} {paths : List String}
    (hcrumb : s.crumb.name.toList.map Char.toLower = Crumb.lowerName) :
    ∀ q ∈ submissions files s paths, s.Asks q := by
  intro q hq
  obtain ⟨path, -, hquery⟩ := List.mem_filterMap.mp hq
  obtain ⟨content, -, rfl⟩ := Option.map_eq_some_iff.mp hquery
  exact ⟨⟨validatorPath, by simp, rfl⟩, by simpa [submissionQuery] using hcrumb⟩

section

variable {around : Surroundings} {args : CommandLine.Arguments} {settings : Settings}

/-- **The exchanges of a run**: each sends what a query of the run's endpoint asks for. -/
theorem run_asks
    (hsettings : (Settings.resolve around.files around.home around.env args).value = .ok settings)
    (out : Sink) (t : Traffic) :
    let e := args.endpoint settings
    ∃ started, ((run around args out).run t).value.2.exchanges = t.exchanges ++ started ∧
      ∀ x ∈ started, ∃ past, x = e.exchangeFor around.server past x.query ∧ e.Asks x.query := by
  intro e
  cases hcrumb : e.issued around.server t.requests with
  | error failure =>
    have hdone := value_run_of_refused around args out t hsettings hcrumb
    refine ⟨[around.crumbExchange args settings t], by rw [hdone], fun x hx => ?_⟩
    obtain rfl := List.mem_singleton.mp hx
    exact ⟨t.requests, rfl, e.asks_crumbQuery⟩
  | ok crumb =>
    obtain ⟨more, hmore, hsent, hquery⟩ := exchanges_run_of_issued around args out t hsettings
      hcrumb
    refine ⟨around.crumbExchange args settings t :: more, hmore, fun x hx => ?_⟩
    rcases List.mem_cons.mp hx with rfl | hx
    · exact ⟨t.requests, rfl, e.asks_crumbQuery⟩
    · obtain ⟨_, text, -, -, hparse⟩ := (Endpoint.issued_eq_ok_iff _ _ _).mp hcrumb
      obtain ⟨past, hpast⟩ := Endpoint.exists_eq_exchangeFor hsent x hx
      refine ⟨past, hpast, ?_⟩
      exact Session.asks_of_mem_submissions (s := { e with crumb }) (Crumb.name_of_parse hparse).2
        x.query (hquery ▸ List.mem_map_of_mem hx)

/-! ## The credentials of a request -/

/-- Nothing in the paths that a run asks for would be read as a user or cut away. -/
theorem plain_of_mem_paths {path : String} (h : path ∈ [Crumb.issuerPath, validatorPath]) :
    '@' ∉ path.toList ∧ ∃ c, path.toList.getLast? = some c ∧ Http.Url.isOuter c = false := by
  simp only [List.mem_cons, List.not_mem_nil, or_false] at h
  rcases h with rfl | rfl
  · exact ⟨by decide, ')', rfl, rfl⟩
  · exact ⟨by decide, 'e', rfl, rfl⟩

/-- **What is sent for a query bears the endpoint's credentials** and no others, when the server's
URL names nobody. -/
theorem CommandLine.Arguments.access_of_mem_sent (hserver : around.server.SendsNobodyOn)
    (hnobody : Http.Url.NamesNobody settings.url.toList) {past : List Http.Request} {q : Query}
    (hq : (args.endpoint settings).Asks q) {r : Http.Request}
    (hr : r ∈ ((args.endpoint settings).exchangeFor around.server past q).sent) :
    r.access = (args.endpoint settings).credentials.toList.map Http.authorization := by
  obtain ⟨hbuilt, hurl⟩ := Http.built_of_mem_exchange hserver hr
  refine Http.Request.access_of_build hbuilt hurl (fun u hparse hu => ?_) fun given hgiven => ?_
  · obtain ⟨path, hpath, htarget⟩ := hq.target
    obtain ⟨n, hslashes⟩ := Endpoint.toList_trimUrl settings.url
    have htext : q.target.toList =
        (Endpoint.trimUrl settings.url).toList ++ '/' :: path.toList := by
      rw [htarget, Endpoint.target, String.toList_append, String.toList_append, List.append_assoc]
      rfl
    obtain ⟨hplain, c, hlast, hc⟩ := plain_of_mem_paths hpath
    rw [hslashes] at hnobody
    refine Http.Url.credentials?_of_namesNobody (hnobody.append hplain) ?_ hc (htext ▸ hparse) hu
    rw [List.getLast?_append, List.getLast?_cons, hlast]
    rfl
  · rw [hq.headers given hgiven]
    decide

end

/-! ## The password alone -/

theorem lintFiles_congr {σ ω : Type} {linter linter' : Linter σ ω} {paths : List String}
    (h : ∀ path ∈ paths, linter' path = linter path) (out : ω) :
    lintFiles linter' paths out = lintFiles linter paths out := by
  induction paths generalizing out with
  | nil => rfl
  | cons path paths ih =>
    have hmore (out : ω) : lintFiles linter' paths out = lintFiles linter paths out :=
      ih (fun p hp => h p (List.mem_cons_of_mem _ hp)) out
    simp only [lintFiles, h path List.mem_cons_self, hmore]

theorem Session.lint_congr {files files' : FileSystem} {path : String}
    (h : files'.read path = files.read path) (server : Http.Server) (s : Session) :
    s.lint server files' path = s.lint server files path := by
  funext out
  simp only [lint, readPipeline, h]

/-- Two runs with `args` find the same, but perhaps for the password of the environment and for what
profile files say. -/
structure Surroundings.LikeButForPassword (around around' : Surroundings)
    (args : CommandLine.Arguments) : Prop where
  server : around'.server = around.server
  home : around'.home = around.home
  env : ∀ name, name ≠ "JENKINS_PASSWORD" → around'.env name = around.env name
  profiles : ∀ path ∈ Settings.paths around.home args,
    around'.files.holds path = around.files.holds path
  linted : ∀ path ∈ args.files, around'.files.read path = around.files.read path

namespace Surroundings

variable {around around' : Surroundings} {args : CommandLine.Arguments} {settings : Settings}

theorem LikeButForPassword.records_resolve (h : around.LikeButForPassword around' args)
    {settings' : Settings}
    (hsettings : (Settings.resolve around.files around.home around.env args).value = .ok settings)
    (hsettings' :
      (Settings.resolve around'.files around'.home around'.env args).value = .ok settings') :
    (Settings.resolve around'.files around'.home around'.env args).records =
      (Settings.resolve around.files around.home around.env args).records := by
  have hrecords := Settings.records_resolve _ _ _ hsettings
  have hrecords' := Settings.records_resolve _ _ _ hsettings'
  have hurl : around'.env.NamesNoServer ↔ around.env.NamesNoServer := by
    rw [Environment.NamesNoServer, Environment.NamesNoServer, h.env "JENKINS_URL" (by decide)]
  by_cases hnone : around.env.NamesNoServer
  · rw [hrecords'.1 (hurl.mpr hnone), hrecords.1 hnone, h.home, List.filter_congr h.profiles]
  · rw [hrecords'.2 (mt hurl.mp hnone), hrecords.2 hnone]

/-- **Without credentials, a run does not depend on the password.** -/
theorem LikeButForPassword.run_eq (h : around.LikeButForPassword around' args)
    {password : Option String}
    (hsettings : (Settings.resolve around.files around.home around.env args).value = .ok settings)
    (hsettings' : (Settings.resolve around'.files around'.home around'.env args).value =
      .ok { settings with password })
    (hnobody : settings.username = none ∨ settings.username = some "") (out : Sink) (t : Traffic) :
    (run around' args out).run t = (run around args out).run t := by
  have hnone (password : Option String) :
      Credentials.ofParts? settings.username password = none :=
    Credentials.ofParts?_of_nobody hnobody
  have hlinter (session : Session) (out : Sink) :
      lintFiles (session.lint around.server around'.files) args.files out =
        lintFiles (session.lint around.server around.files) args.files out :=
    lintFiles_congr (fun path hpath => Session.lint_congr (h.linted path hpath) _ session) out
  have hrunOn : runOn around' args { settings with password } out =
      runOn around args settings out := by
    simp only [runOn, hnone, h.server, hlinter]
  have hrecords := h.records_resolve hsettings hsettings'
  rw [run, run]
  refine Logged.ext ?_ ?_
  · simp only [Action.value_bind, Action.value_lift, hsettings, hsettings', hrunOn]
  · simp only [Action.records_bind, Action.records_lift, Action.value_lift, hsettings, hsettings',
      hrunOn, hrecords]

end Surroundings

/-! ## Runs -/

/-- **Who a run speaks for.** When the server's URL names nobody and the server sends nobody on, a
named user's name and password go with every request of a run, in one header that can be read back
to them. Without a user's name no request bears such a header, and another password would make no
difference to the run. -/
theorem run_authorizes {around : Surroundings} {args : CommandLine.Arguments} {settings : Settings}
    (hsettings : (Settings.resolve around.files around.home around.env args).value = .ok settings)
    (hnobody : Http.Url.NamesNobody settings.url.toList)
    (hserver : around.server.SendsNobodyOn) (out : Sink) (t : Traffic) :
    let done := (run around args out).run t
    ∃ started, done.value.2.exchanges = t.exchanges ++ started ∧
      (∀ name, settings.username = some name → name ≠ "" →
        ∀ r ∈ started.flatMap (·.sent), ∃ digits,
          r.headers.filter (·.name = "authorization") =
            [⟨"authorization", "Basic " ++ String.ofList digits⟩] ∧
          Http.Base64.decode? digits = some (Text.Utf8.encode
            (name ++ ":" ++ settings.password.getD "").toList)) ∧
      (settings.username = none ∨ settings.username = some "" →
        (∀ r ∈ started.flatMap (·.sent), ∀ header ∈ r.headers, header.name ≠ "authorization") ∧
        ∀ around' password, around.LikeButForPassword around' args →
          (Settings.resolve around'.files around'.home around'.env args).value =
            .ok { settings with password } →
          (run around' args out).run t = done) := by
  intro done
  obtain ⟨started, hstarted, hasks⟩ := run_asks hsettings out t
  have haccess : ∀ r ∈ started.flatMap (·.sent), r.access =
      (Credentials.ofParts? settings.username settings.password).toList.map
        Http.authorization := by
    intro r hr
    obtain ⟨x, hx, hrx⟩ := List.mem_flatMap.mp hr
    obtain ⟨past, hpast, hquery⟩ := hasks x hx
    exact CommandLine.Arguments.access_of_mem_sent hserver hnobody hquery (hpast ▸ hrx)
  refine ⟨started, hstarted, fun name hname hne r hr => ?_, fun hname => ⟨fun r hr => ?_, ?_⟩⟩
  · have hparts : Credentials.ofParts? (some name) settings.password =
        some ⟨name, settings.password⟩ := if_neg (by simpa using hne)
    have hbears := haccess r hr
    obtain ⟨digits, hheader, hdigits⟩ := Http.authorization_eq ⟨name, settings.password⟩
    rw [hname, hparts, Option.toList_some, List.map_singleton, hheader] at hbears
    exact ⟨digits, hbears, hdigits⟩
  · have hbears := haccess r hr
    rw [Credentials.ofParts?_of_nobody hname] at hbears
    exact fun header hheader => by simpa using List.filter_eq_nil_iff.mp hbears header hheader
  · intro around' password hlike hsettings'
    exact hlike.run_eq hsettings hsettings' hname out t

/-- The environment names a server that accepts every file, and perhaps a user. -/
def visitor (username password : Option String) : Surroundings where
  files := ⟨fun _ => .ok []⟩
  env name :=
    if name = "JENKINS_URL" then some "http://a/"
    else if name = "JENKINS_USERNAME" then username
    else if name = "JENKINS_PASSWORD" then password
    else none
  home := none
  server := Session.agreeable

/-- A user without a password, and two passwords without a user. -/
theorem run_authorizes_visitors :
    let done := (run (visitor (some "é") none) { files := ["Jenkinsfile"] } {}).run {}
    (done.value.2.requests.map (·.method) = ["GET", "POST"] ∧
      ∀ r ∈ done.value.2.requests, ∃ digits,
        r.headers.filter (·.name = "authorization") =
          [⟨"authorization", "Basic " ++ String.ofList digits⟩] ∧
        Http.Base64.decode? digits = some (Text.Utf8.encode "é:".toList)) ∧
    (run (visitor none (some "b")) { files := ["Jenkinsfile"] } {}).run {} =
      (run (visitor none (some "a")) { files := ["Jenkinsfile"] } {}).run {} := by
  intro done
  have hsettings (username password : Option String) :
      (Settings.resolve (visitor username password).files (visitor username password).home
        (visitor username password).env { files := ["Jenkinsfile"] }).value =
          .ok ⟨"http://a/", username, password⟩ := rfl
  have hnobody : Http.Url.NamesNobody "http://a/".toList := by
    intro scheme rest hread _
    cases (show some ("http".toList, "//a/".toList) = some (scheme, rest) from hread)
    exact Http.Authority.nobodyIn_of_notMem (by decide)
  have hserver : Session.agreeable.SendsNobodyOn := by
    intro past r a h
    cases h
    rfl
  have hissued : (CommandLine.Arguments.endpoint { files := ["Jenkinsfile"] }
      ⟨"http://a/", some "é", none⟩).issued Session.agreeable [] =
        .ok ⟨"Jenkins-Crumb", "1"⟩ := rfl
  refine ⟨⟨?_, ?_⟩, ?_⟩
  · obtain ⟨more, hmore, hsent, hquery⟩ := exchanges_run_of_issued (visitor (some "é") none)
      { files := ["Jenkinsfile"] } {} {} (hsettings _ _) hissued
    obtain ⟨x, rfl, hx⟩ := List.map_eq_singleton_iff.mp hquery
    have hposted := hsent.1
    rw [hx] at hposted
    rw [Traffic.requests, hmore, hposted]
    rfl
  · obtain ⟨started, hstarted, hnamed, -⟩ :=
      run_authorizes (hsettings (some "é") none) hnobody hserver {} {}
    have hrequests : done.value.2.requests = started.flatMap (·.sent) := by
      rw [Traffic.requests, hstarted]
      rfl
    exact fun r hr => hnamed "é" rfl (by decide) r (hrequests ▸ hr)
  · obtain ⟨started, -, -, hunnamed⟩ :=
      run_authorizes (hsettings none (some "a")) hnobody hserver {} {}
    refine (hunnamed (.inl rfl)).2 (visitor none (some "b")) (some "b")
      ⟨rfl, rfl, fun name hname => ?_, fun _ _ => rfl, fun _ _ => rfl⟩ (hsettings none (some "b"))
    simp [visitor, hname]

end PipelineLint
