import PipelineLint.Proofs.Lint.Verdict
import PipelineLint.Run

/-!
# What a run asks for, and how it ends

A run has three stages, and each hands on to the next only when it succeeds: the settings are found,
a session is opened, and the files are linted. The first stage asks no server, the second asks for
the crumb once, and the third submits the content of each file that holds text. Which files these
are depends on the file system alone, so the queries of a run can be listed without running it, up
to the one crumb that all submissions bear.

The exit status looks at the same stages from the other end: it is zero when every stage succeeds
and every file passes at its turn.

## Main definitions

* `CommandLine.Arguments.endpoint`, `Surroundings.connect` — the session of a run
* `Surroundings.AllPass` — every stage of a run succeeds and every file passes
* `Session.submissions` — the queries that submit the files of a list
* `Endpoint.IsBase` — a base URL is a URL without the slashes at its end

## Main results

* `exitStatus_run_eq_zero_iff` — the status is zero when everything goes well, and one otherwise
* `Session.exchanges_lintFiles` — linting files starts their submissions and nothing else
* `queries_run` — the queries of a run, in order
-/

namespace PipelineLint

namespace Surroundings

variable (around : Surroundings) (args : CommandLine.Arguments) (settings : Settings)

/-- Opens the session of a run with the server that `settings` name. -/
def connect : Action Traffic (Except ConnectionError Session) :=
  Session.connect around.server settings.url
    (Credentials.ofParts? settings.username settings.password) args.insecure
    (1000 * args.timeout.toNat)

end Surroundings

/-- The endpoint of a run with the server that `settings` name. -/
def CommandLine.Arguments.endpoint (args : CommandLine.Arguments) (settings : Settings) :
    Endpoint :=
  Session.endpoint settings.url (Credentials.ofParts? settings.username settings.password)
    args.insecure (1000 * args.timeout.toNat)

/-- The exchange for the crumb, with which a run starts asking the server. -/
def Surroundings.crumbExchange (around : Surroundings) (args : CommandLine.Arguments)
    (settings : Settings) (t : Traffic) : Exchange :=
  (args.endpoint settings).exchangeFor around.server t.requests (args.endpoint settings).crumbQuery

/-! ## The stages of a run -/

section

variable (around : Surroundings) (args : CommandLine.Arguments) (out : Sink) (t : Traffic)

theorem value_run :
    ((run around args out).run t).value =
      match (Settings.resolve around.files around.home around.env args).value with
      | .error e => ((.error (.config e), out), t)
      | .ok settings => ((runOn around args settings out).run t).value := by
  rw [run]
  simp only [Action.value_bind, Action.value_lift]
  cases (Settings.resolve around.files around.home around.env args).value with
  | error e => rfl
  | ok settings => rfl

theorem value_runOn (settings : Settings) :
    ((runOn around args settings out).run t).value =
      let opened := ((around.connect args settings).run t).value
      match opened.1 with
      | .error e => ((.error (.connection e), out), opened.2)
      | .ok session =>
        let linted := ((lintFiles (session.lint around.server around.files) args.files out).run
          opened.2).value
        ((.ok linted.1.1, linted.1.2), linted.2) := by
  rw [runOn, Surroundings.connect]
  simp only [Action.value_bind]
  cases ((Session.connect around.server settings.url
    (Credentials.ofParts? settings.username settings.password) args.insecure
    (1000 * args.timeout.toNat)).run t).value.1 with
  | error e => rfl
  | ok session => rfl

/-- The session of a run is bound to the run's endpoint, bears the crumb that was given out, and is
open. -/
theorem value_connect_run (settings : Settings) :
    ((around.connect args settings).run t).value =
      (((args.endpoint settings).issued around.server t.requests).map fun crumb =>
          { args.endpoint settings with crumb },
        ⟨args.insecure || t.isSilenced, t.exchanges ++ [around.crumbExchange args settings t]⟩) :=
  Session.value_connect around.server settings.url _ args.insecure _ t

theorem isClosed_of_connect {settings : Settings} {session : Session} {opened : Traffic}
    (h : ((around.connect args settings).run t).value = (.ok session, opened)) :
    session.isClosed = false :=
  Session.isClosed_of_connect (congrArg Prod.fst h)

end

/-! ## The exit status -/

/-- Every stage of a run succeeds: there are settings, a session is opened, and every file passes at
its turn. -/
def Surroundings.AllPass (around : Surroundings) (args : CommandLine.Arguments) (out : Sink)
    (t : Traffic) : Prop :=
  ∃ settings session opened,
    (Settings.resolve around.files around.home around.env args).value = .ok settings ∧
    ((around.connect args settings).run t).value = (.ok session, opened) ∧
    ∀ i path, args.files[i]? = some path →
      let before := turn (session.lint around.server around.files) args.files out opened i
      session.Passes around.server around.files path before.1 before.2

theorem value_exitStatus_eq_zero_iff {result : Except RunError Bool} :
    (exitStatus result).value = 0 ↔ result = .ok true := by
  obtain _ | _ | _ := result <;> simp [exitStatus]

theorem value_exitStatus_eq_one_iff {result : Except RunError Bool} :
    (exitStatus result).value = 1 ↔ ¬ result = .ok true := by
  obtain _ | _ | _ := result <;> simp [exitStatus]

theorem fst_run_eq_ok_true_iff (around : Surroundings) (args : CommandLine.Arguments) (out : Sink)
    (t : Traffic) :
    ((run around args out).run t).value.1.1 = .ok true ↔ around.AllPass args out t := by
  rw [value_run]
  rw [Surroundings.AllPass]
  cases (Settings.resolve around.files around.home around.env args).value with
  | error e => simp
  | ok settings =>
    simp only [value_runOn, Except.ok.injEq, exists_and_left, exists_eq_left']
    cases hopened : ((around.connect args settings).run t).value with
    | mk result opened =>
      cases result with
      | error failure => simp
      | ok session =>
        have hopen := isClosed_of_connect around args t hopened
        simp only [Except.ok.injEq, lintFiles_eq_true_iff,
          Session.fst_lint_eq_ok_true_iff around.server around.files hopen]
        constructor
        · exact fun h => ⟨session, opened, rfl, h⟩
        · rintro ⟨_, _, ⟨⟩, h⟩
          exact h

/-- **A run ends with zero exactly when all goes well**, and with one in every other case. -/
theorem exitStatus_run_eq_zero_iff (around : Surroundings) (args : CommandLine.Arguments)
    (out : Sink) (t : Traffic) :
    let status := (exitStatus ((run around args out).run t).value.1.1).value
    (status = 0 ↔ around.AllPass args out t) ∧ (status = 1 ↔ ¬ around.AllPass args out t) := by
  intro status
  rw [value_exitStatus_eq_zero_iff, value_exitStatus_eq_one_iff, fst_run_eq_ok_true_iff]
  exact ⟨Iff.rfl, Iff.rfl⟩

/-! ## The queries of a run -/

theorem Traffic.requests_append (t : Traffic) (isSilenced : Bool) (started : List Exchange) :
    Traffic.requests ⟨isSilenced, t.exchanges ++ started⟩ =
      t.requests ++ started.flatMap (·.sent) := by
  simp [Traffic.requests]

namespace Session

variable (server : Http.Server) (files : FileSystem) (s : Session)

/-- The queries that submit the files of `paths`. A file that holds no text is not submitted. -/
def submissions (paths : List String) : List Query :=
  paths.filterMap fun path => (files.readText path).toOption.map s.submissionQuery

variable {s} in
/-- Linting one file starts its submission and nothing else. -/
theorem exchanges_lint (hs : s.isClosed = false) (path : String) (out : Sink) (t : Traffic) :
    ∃ started,
      ((s.lint server files path out).run t).value.2 =
        { t with exchanges := t.exchanges ++ started } ∧
      s.SentFor server t.requests started ∧
      started.map (·.query) = submissions files s [path] := by
  rw [value_lint server files hs]
  cases hread : files.readText path with
  | error e =>
    have hpipeline : ∀ content, readPipeline files path ≠ .ok content := fun content h => by
      simp [readPipeline_eq_ok_iff, hread] at h
    refine ⟨[], ?_, trivial, by simp [submissions, hread, Except.toOption]⟩
    cases h : readPipeline files path with
    | error e => simp
    | ok content => cases hpipeline content h
  | ok content =>
    refine ⟨[s.exchangeFor server t.requests (s.submissionQuery content)], ?_, ⟨rfl, trivial⟩, ?_⟩
    · simp [readPipeline_eq_ok_iff.mpr hread, Traffic.add]
    · simp [submissions, hread, Except.toOption]

variable {s} in
/-- **Linting files starts their submissions, in order, and nothing else.** -/
theorem exchanges_lintFiles (hs : s.isClosed = false) (paths : List String) (out : Sink)
    (t : Traffic) :
    ∃ started,
      ((lintFiles (s.lint server files) paths out).run t).value.2 =
        { t with exchanges := t.exchanges ++ started } ∧
      s.SentFor server t.requests started ∧
      started.map (·.query) = submissions files s paths := by
  induction paths generalizing out t with
  | nil => exact ⟨[], by simp [lintFiles], trivial, rfl⟩
  | cons path paths ih =>
    obtain ⟨first, hfirst, hsent, hquery⟩ := exchanges_lint server files hs path out t
    rw [value_lintFiles_cons]
    dsimp only
    rw [hfirst]
    generalize ((s.lint server files path out).run t).value.1.2 = out'
    obtain ⟨more, hmore, hsent', hquery'⟩ := ih out' { t with exchanges := t.exchanges ++ first }
    rw [Traffic.requests_append] at hsent'
    refine ⟨first ++ more, ?_, Endpoint.sentFor_append server _ hsent hsent', ?_⟩
    · rw [hmore, List.append_assoc]
    · rw [List.map_append, hquery, hquery', submissions, submissions, submissions,
        ← List.filterMap_append]
      rfl

end Session

/-- `base` is `url` without the slashes at its end. -/
def Endpoint.IsBase (base url : String) : Prop :=
  (∃ n, url.toList = base.toList ++ List.replicate n '/') ∧ base.toList.getLast? ≠ some '/'

theorem Endpoint.isBase_trimUrl (url : String) : IsBase (trimUrl url) url :=
  ⟨toList_trimUrl url, getLast?_trimUrl url⟩

theorem Profiles.isQuiet_loadMore (files : FileSystem) (ps : Option Profiles)
    (paths : List String) : (loadMore files ps paths).IsQuiet := by
  induction paths generalizing ps with
  | nil => exact Logged.isQuiet_pure _
  | cons path paths ih =>
    rw [loadMore]
    split
    · exact ih ps
    · exact Logged.isQuiet_pure _
    · refine (Logged.isQuiet_debug _).bind ?_
      split
      · exact Logged.isQuiet_pure _
      · exact ih _

theorem Settings.isQuiet_resolve (files : FileSystem) (home : Option String) (env : Environment)
    (args : CommandLine.Arguments) : (resolve files home env args).IsQuiet := by
  have hload (paths : List String) : (Profiles.load files paths).IsQuiet := by
    refine (Profiles.isQuiet_loadMore files none paths).bind ?_
    split
    · exact Logged.isQuiet_pure _
    · exact Logged.isQuiet_pure _
    · exact Logged.isQuiet_pure _
  rw [resolve]
  split
  · exact (Logged.isQuiet_debug _).bind (Logged.isQuiet_pure _)
  · refine (hload _).bind ?_
    split
    · exact Logged.isQuiet_pure _
    · exact Logged.isQuiet_pure _

/-- Nothing is said about a failure when no session can be opened; that is left to the caller. -/
theorem isQuiet_run_of_connect (around : Surroundings) (args : CommandLine.Arguments) (out : Sink)
    (t : Traffic) {settings : Settings} {failure : ConnectionError}
    (hsettings : (Settings.resolve around.files around.home around.env args).value = .ok settings)
    (h : ((around.connect args settings).run t).value.1 = .error failure) :
    ((run around args out).run t).IsQuiet := by
  refine Action.isQuiet_bind (Action.isQuiet_lift (Settings.isQuiet_resolve _ _ _ _) t) ?_
  simp only [Action.value_lift, hsettings]
  refine Action.isQuiet_bind (Session.isQuiet_connect _ _ _ _ _ t) ?_
  rw [Surroundings.connect] at h
  rw [h]
  exact Action.isQuiet_pure _ _

section

variable (around : Surroundings) (args : CommandLine.Arguments) (out : Sink) (t : Traffic)
  {settings : Settings}

/-- Refused the crumb, a run ends with that error and asks nothing more. -/
theorem value_run_of_refused {failure : ConnectionError}
    (hsettings : (Settings.resolve around.files around.home around.env args).value = .ok settings)
    (h : (args.endpoint settings).issued around.server t.requests = .error failure) :
    ((run around args out).run t).value = ((.error (.connection failure), out),
      ⟨args.insecure || t.isSilenced, t.exchanges ++ [around.crumbExchange args settings t]⟩) := by
  have hopened := value_connect_run around args t settings
  rw [h] at hopened
  rw [value_run, hsettings]
  simp only [value_runOn, hopened, Except.map]

/-- Given the crumb, a run submits its files and asks nothing else. -/
theorem exchanges_run_of_issued {crumb : Crumb}
    (hsettings : (Settings.resolve around.files around.home around.env args).value = .ok settings)
    (h : (args.endpoint settings).issued around.server t.requests = .ok crumb) :
    ∃ more,
      ((run around args out).run t).value.2.exchanges =
        t.exchanges ++ around.crumbExchange args settings t :: more ∧
      (args.endpoint settings).SentFor around.server
        (t.requests ++ (around.crumbExchange args settings t).sent) more ∧
      more.map (·.query) = Session.submissions around.files
        { args.endpoint settings with crumb } args.files := by
  have hopened := value_connect_run around args t settings
  rw [h] at hopened
  obtain ⟨more, hmore, hsent, hquery⟩ := Session.exchanges_lintFiles around.server around.files
    (s := { args.endpoint settings with crumb }) rfl args.files out
    ⟨args.insecure || t.isSilenced, t.exchanges ++ [around.crumbExchange args settings t]⟩
  refine ⟨more, ?_, ?_, hquery⟩
  · rw [value_run, hsettings]
    simp only [value_runOn, hopened, Except.map]
    rw [hmore, List.append_assoc]
    rfl
  · rw [Traffic.requests_append, List.flatMap_singleton] at hsent
    exact hsent

end

/-- **The queries of a run**, in order. Without settings there are none. Otherwise the crumb is
asked for once, and unless it is given out the run ends with that error, having printed nothing and
having recorded no failure. With the crumb, each file that holds text is submitted at its turn, and
no other query is made. -/
theorem queries_run (around : Surroundings) (args : CommandLine.Arguments) (out : Sink)
    (t : Traffic) :
    let done := (run around args out).run t
    ∃ started, done.value.2.exchanges = t.exchanges ++ started ∧
      match (Settings.resolve around.files around.home around.env args).value with
      | .error e => started = [] ∧ done.value.1 = (.error (.config e), out)
      | .ok settings =>
        let e := args.endpoint settings
        Endpoint.IsBase e.url settings.url ∧ e.SentFor around.server t.requests started ∧
          match e.issued around.server t.requests with
          | .error failure =>
            started.map (·.query) = [⟨"GET", e.url ++ "/" ++ Crumb.issuerPath, [], none⟩] ∧
              done.value.1 = (.error (.connection failure), out) ∧ done.IsQuiet
          | .ok crumb =>
            started.map (·.query) =
              ⟨"GET", e.url ++ "/" ++ Crumb.issuerPath, [], none⟩ ::
                args.files.filterMap fun path =>
                  (around.files.readText path).toOption.map fun content =>
                    ⟨"POST", e.url ++ "/" ++ validatorPath, [(crumb.name, crumb.value)],
                      some [("jenkinsfile", content)]⟩ := by
  intro done
  cases hsettings : (Settings.resolve around.files around.home around.env args).value with
  | error e =>
    have hdone : done.value = ((.error (.config e), out), t) := by
      simp only [done, value_run, hsettings]
    exact ⟨[], by simp [hdone], rfl, by rw [hdone]⟩
  | ok settings =>
    have hbase : Endpoint.IsBase (args.endpoint settings).url settings.url :=
      Endpoint.isBase_trimUrl settings.url
    dsimp only
    cases hcrumb : (args.endpoint settings).issued around.server t.requests with
    | error failure =>
      have hdone := value_run_of_refused around args out t hsettings hcrumb
      have hquiet : done.IsQuiet := isQuiet_run_of_connect around args out t hsettings (by
        rw [value_connect_run, hcrumb]
        rfl)
      exact ⟨[around.crumbExchange args settings t], by rw [hdone], hbase, ⟨rfl, trivial⟩, rfl,
        by rw [hdone], hquiet⟩
    | ok crumb =>
      obtain ⟨more, hmore, hsent, hquery⟩ := exchanges_run_of_issued around args out t hsettings
        hcrumb
      refine ⟨around.crumbExchange args settings t :: more, hmore, hbase, ⟨rfl, hsent⟩, ?_⟩
      rw [List.map_cons, hquery]
      rfl

end PipelineLint
