import PipelineLint.Proofs.Session.Calls

/-!
# One process with many sessions

The notice about unchecked certificates belongs to the process, while sessions come and go. A
process opens sessions, with checked or unchecked certificates and with or without success, and
makes calls on those that it holds, in any order.

## Silence

A session that leaves certificates unchecked silences the notice before it asks for its crumb. So no
process ever holds such a session while the notice is due, and the notice is never given, not even
while a session is being opened. That the process has been silenced is recorded the first time only.

## Main definitions

* `Process` — the sessions that are held, and the traffic that they share
* `Process.step`, `Process.run` — one step of a process, and one step after the other
* `Process.IsSilent` — no session is held that the notice is due for

## Main results

* `Process.IsSilent.step`, `Process.IsSilent.run` — a silent process stays silent
* `Process.silencing_run` — what a process ever says about unchecked certificates
-/

namespace PipelineLint

/-- What is recorded when the notice is silenced. -/
def Notice.silencing : Log.Record := ⟨.debug, "Insecure TLS warnings suppressed for this process"⟩

theorem Notice.value_suppress (silenced : Bool) : (suppress silenced).value = true := by
  cases silenced <;> rfl

theorem Notice.records_suppress (silenced : Bool) :
    (suppress silenced).records = if silenced then [] else [silencing] := by
  cases silenced <;> rfl

/-- Whether a record is about unchecked certificates: a warning, or that there will be none. -/
def Log.Record.isAboutTrust (r : Record) : Bool := r.level == .warn || r == Notice.silencing

theorem Log.Record.isAboutTrust_debug {text : String} (h : text ≠ Notice.silencing.text) :
    (⟨.debug, text⟩ : Record).isAboutTrust = false := by
  simpa [isAboutTrust, Notice.silencing] using h

/-! ## What is not about certificates -/

/-- An announcement is about a URL, and so it has a slash. -/
theorem Endpoint.isAboutTrust_announced (e : Endpoint) (method path : String) :
    (⟨.debug, method ++ " " ++ e.target path⟩ : Log.Record).isAboutTrust = false := by
  have hslash : '/' ∈ (method ++ " " ++ e.target path).toList := by
    simp [target, String.toList_append]
  have hnone : '/' ∉ Notice.silencing.text.toList := by decide
  exact Log.Record.isAboutTrust_debug fun h => hnone (h ▸ hslash)

namespace Session

variable (server : Http.Server)

theorem isAboutTrust_judged (path : String) (valid : Bool) :
    (⟨.debug, path ++ ": " ++ verdictWord valid⟩ : Log.Record).isAboutTrust = false := by
  have hlast : (path ++ ": " ++ verdictWord valid).toList.getLast? = some 'd' := by
    rw [String.toList_append, List.getLast?_append]
    cases valid <;> rfl
  have hother : Notice.silencing.text.toList.getLast? ≠ some 'd' := by decide
  exact Log.Record.isAboutTrust_debug fun h => hother (h ▸ hlast)

theorem isAboutTrust_closing (url : String) : (closing url).isAboutTrust = false := by
  have hhead : ("Closed session with " ++ url).toList.head? = some 'C' := by
    rw [String.toList_append]
    rfl
  have hother : Notice.silencing.text.toList.head? ≠ some 'C' := by decide
  exact Log.Record.isAboutTrust_debug fun h => hother (h ▸ hhead)

theorem isAboutTrust_greeting (crumb : Crumb) (url : String) :
    (⟨.debug, s!"Using crumb header {crumb.name} for {url}"⟩ : Log.Record).isAboutTrust =
      false := by
  have hhead : s!"Using crumb header {crumb.name} for {url}".toList.head? = some 'U' := by
    simp only [String.toList_append]
    rfl
  have hother : Notice.silencing.text.toList.head? ≠ some 'U' := by decide
  exact Log.Record.isAboutTrust_debug fun h => hother (h ▸ hhead)

/-! ## What sessions say about certificates -/

/-- A call on a session says nothing about certificates once the notice is silenced, or when the
session checks them. -/
theorem filter_records_perform {s : Session} {t : Traffic}
    (hs : s.insecure = true → t.isSilenced = true) (c : Call) :
    ((s.perform server c).run t).records.filter (·.isAboutTrust) = [] := by
  refine List.filter_eq_nil_iff.mpr fun r hr => ?_
  rw [Bool.not_eq_true]
  cases Records.of_mem hr with
  | announced method path => exact s.isAboutTrust_announced method path
  | warned hinsecure hnotice text => exact absurd (hs hinsecure) (by simp [hnotice])
  | judged valid => exact isAboutTrust_judged _ valid
  | closed _ => exact isAboutTrust_closing s.url

end Session

/-- A request says nothing about certificates once the notice is silenced, or when they are
checked. -/
theorem Endpoint.filter_records_send (server : Http.Server) {e : Endpoint} {t : Traffic}
    (he : e.insecure = true → t.isSilenced = true) (method path : String)
    (form : Option Http.Form) (headers : List (String × String)) :
    ((e.send server method path form headers).run t).records.filter (·.isAboutTrust) = [] := by
  have hgive : (if e.insecure then (Notice.give t.isSilenced (e.target path)).records else []) =
      [] := by
    split
    · next hinsecure => rw [he hinsecure]; rfl
    · rfl
  rw [records_send, hgive]
  exact List.filter_cons_of_neg (Bool.eq_false_iff.mp (e.isAboutTrust_announced method path))

theorem Endpoint.records_fetchCrumb (server : Http.Server) (e : Endpoint) (t : Traffic) :
    ((e.fetchCrumb server).run t).records =
      ((e.send server "GET" Crumb.issuerPath none []).run t).records := by
  rw [fetchCrumb, Action.records_bind]
  refine (congrArg _ ?_).trans (List.append_nil _)
  split
  · rfl
  · split <;> rfl

namespace Session

/-- Opens a session on `e`, once it is settled whether the notice is due. -/
def openOn (server : Http.Server) (e : Endpoint) :
    Action Traffic (Except ConnectionError Session) := do
  match ← e.fetchCrumb server with
  | .error failure => pure (.error failure)
  | .ok crumb =>
    Logged.debug s!"Using crumb header {crumb.name} for {e.url}"
    pure (.ok { e with crumb })

theorem connect_eq (server : Http.Server) (url : String) (credentials : Option Credentials)
    (insecure : Bool) (timeout : Nat) :
    connect server url credentials insecure timeout = (do
      if insecure then
        let traffic ← get
        let isSilenced ← Notice.suppress traffic.isSilenced
        set { traffic with isSilenced }
      openOn server (endpoint url credentials insecure timeout)) := by
  cases insecure <;> rfl

theorem records_connect (server : Http.Server) (url : String) (credentials : Option Credentials)
    (insecure : Bool) (timeout : Nat) (t : Traffic) :
    ((connect server url credentials insecure timeout).run t).records =
      (if insecure then (Notice.suppress t.isSilenced).records else []) ++
      ((openOn server (endpoint url credentials insecure timeout)).run
        { t with isSilenced := insecure || t.isSilenced }).records := by
  rw [connect_eq]
  cases insecure with
  | false => simp
  | true => simp [Notice.value_suppress]

theorem filter_records_openOn (server : Http.Server) {e : Endpoint} {t : Traffic}
    (he : e.insecure = true → t.isSilenced = true) :
    ((openOn server e).run t).records.filter (·.isAboutTrust) = [] := by
  rw [openOn, Action.records_bind, List.filter_append, Endpoint.records_fetchCrumb,
    Endpoint.filter_records_send server he, List.nil_append]
  split
  · rfl
  · simp [Logged.debug, Logged.record, isAboutTrust_greeting]

/-- Opening a session says that the notice is silenced, if certificates are left unchecked and
nobody did so before, and nothing else about certificates. -/
theorem filter_records_connect (server : Http.Server) (url : String)
    (credentials : Option Credentials) (insecure : Bool) (timeout : Nat) (t : Traffic) :
    ((connect server url credentials insecure timeout).run t).records.filter (·.isAboutTrust) =
      if insecure && !t.isSilenced then [Notice.silencing] else [] := by
  have hopenOn : ((openOn server (endpoint url credentials insecure timeout)).run
      { t with isSilenced := insecure || t.isSilenced }).records.filter (·.isAboutTrust) = [] := by
    refine filter_records_openOn server fun h => ?_
    obtain rfl : insecure = true := h
    rfl
  rw [records_connect, List.filter_append, hopenOn, List.append_nil]
  cases insecure with
  | false => rfl
  | true =>
    rw [if_pos rfl, Notice.records_suppress]
    cases t.isSilenced <;> rfl

end Session

/-! ## Processes -/

/-- The sessions that a process holds, in the order in which they were opened, and the traffic that
they share. -/
structure Process where
  sessions : List Session := []
  traffic : Traffic := {}

namespace Process

/-- What a process may do next. A session is known by its number in the order of opening. -/
inductive Step where
  | connect (url : String) (credentials : Option Credentials) (insecure : Bool) (timeout : Nat)
  | call (number : Nat) (c : Session.Call)

/-- Whether a step asks for unchecked certificates. -/
def Step.isInsecure : Step → Bool
  | .connect _ _ insecure _ => insecure
  | .call _ _ => false

variable (server : Http.Server)

/-- One step of a process. A session that could not be opened is not held. -/
def step (p : Process) : Step → Logged Process
  | .connect url credentials insecure timeout => do
    let (opened, traffic) ← (Session.connect server url credentials insecure timeout).run p.traffic
    match opened with
    | .error _ => pure { p with traffic }
    | .ok s => pure { sessions := p.sessions ++ [s], traffic }
  | .call number c =>
    match p.sessions[number]? with
    | none => pure p
    | some s => do
      let (s, traffic) ← (s.perform server c).run p.traffic
      pure { sessions := p.sessions.set number s, traffic }

/-- One step after the other. -/
def run (p : Process) : List Step → Logged Process
  | [] => pure p
  | a :: steps => do
    let p ← p.step server a
    p.run steps

/-- No session is held that the notice is due for. -/
def IsSilent (p : Process) : Prop :=
  ∀ s ∈ p.sessions, s.insecure = true → p.traffic.isSilenced = true

/-- **A step of a silent process.** -/
theorem IsSilent.step {p : Process} (hp : p.IsSilent) (a : Step) :
    (p.step server a).value.IsSilent ∧
    (p.step server a).value.traffic.isSilenced = (p.traffic.isSilenced || a.isInsecure) ∧
    (p.step server a).records.filter (·.isAboutTrust) =
      if a.isInsecure && !p.traffic.isSilenced then [Notice.silencing] else [] := by
  cases a with
  | connect url credentials insecure timeout =>
    have hrecords :=
      Session.filter_records_connect server url credentials insecure timeout p.traffic
    have hvalue := Session.value_connect server url credentials insecure timeout p.traffic
    have hkept (s : Session) (hs : s ∈ p.sessions) (hinsecure : s.insecure = true) :
        (insecure || p.traffic.isSilenced) = true := by
      rw [hp s hs hinsecure, Bool.or_true]
    rw [Process.step, Logged.value_bind, Logged.records_bind, hvalue, List.filter_append, hrecords]
    dsimp only
    cases (Session.endpoint url credentials insecure timeout).issued server p.traffic.requests with
    | error failure => exact ⟨hkept, Bool.or_comm _ _, List.append_nil _⟩
    | ok crumb =>
      -- The new session may be insecure, but then its opening has silenced the notice.
      refine ⟨fun s hs hinsecure => ?_, Bool.or_comm _ _, List.append_nil _⟩
      rcases List.mem_append.mp hs with hs | hs
      · exact hkept s hs hinsecure
      · obtain rfl := List.mem_singleton.mp hs
        obtain rfl : insecure = true := hinsecure
        exact Bool.true_or p.traffic.isSilenced
  | call number c =>
    rw [Process.step, Step.isInsecure]
    cases hnumber : p.sessions[number]? with
    | none => exact ⟨hp, (Bool.or_false _).symm, rfl⟩
    | some s =>
      have hs : s ∈ p.sessions := List.mem_of_getElem? hnumber
      obtain ⟨hsession, hsilenced⟩ := Session.value_perform server s p.traffic c
      have hrecords := Session.filter_records_perform server (hp s hs) c
      dsimp only
      rw [Logged.value_bind, Logged.records_bind, List.filter_append, hrecords]
      refine ⟨fun s' hs' hinsecure => ?_, by simpa using hsilenced, rfl⟩
      refine hsilenced.trans ?_
      rcases List.mem_or_eq_of_mem_set hs' with hs' | rfl
      · exact hp s' hs' hinsecure
      · rw [hsession] at hinsecure
        exact hp s hs hinsecure

/-- **A silent process stays silent.** -/
theorem IsSilent.run {p : Process} (hp : p.IsSilent) (steps : List Step) :
    (p.run server steps).value.traffic.isSilenced =
      (p.traffic.isSilenced || steps.any (·.isInsecure)) ∧
    (p.run server steps).records.filter (·.isAboutTrust) =
      if steps.any (·.isInsecure) && !p.traffic.isSilenced then [Notice.silencing] else [] := by
  induction steps generalizing p with
  | nil => exact ⟨(Bool.or_false _).symm, rfl⟩
  | cons a steps ih =>
    obtain ⟨hsilent, hsilenced, hrecords⟩ := hp.step server a
    obtain ⟨hvalue, hmore⟩ := ih hsilent
    rw [Process.run, Logged.value_bind, Logged.records_bind, List.filter_append, hvalue, hmore,
      hrecords, hsilenced, List.any_cons]
    refine ⟨Bool.or_assoc _ _ _, ?_⟩
    cases p.traffic.isSilenced <;> cases a.isInsecure <;> simp

/-- **What a process ever says about unchecked certificates**: it never warns of them, and it
records once that it will not, from the first wish for them on. -/
theorem silencing_run (steps : List Step) :
    let done := run server {} steps
    (∀ r ∈ done.records, r.level ≠ .warn) ∧
    (done.value.traffic.isSilenced = true ↔ ∃ a ∈ steps, a.isInsecure = true) ∧
    (done.value.traffic.isSilenced = true → ∀ more : List Step,
      (run server {} (steps ++ more)).value.traffic.isSilenced = true) ∧
    done.records.count ⟨.debug, "Insecure TLS warnings suppressed for this process"⟩ =
      if ∃ a ∈ steps, a.isInsecure = true then 1 else 0 := by
  have hstart : IsSilent {} := fun s hs => by cases hs
  obtain ⟨hvalue, hrecords⟩ := hstart.run server steps
  rw [Bool.false_or] at hvalue
  rw [Bool.not_false, Bool.and_true] at hrecords
  dsimp only
  have hcount : (run server {} steps).records.count Notice.silencing =
      ((run server {} steps).records.filter (·.isAboutTrust)).count Notice.silencing :=
    (List.count_filter rfl).symm
  refine ⟨fun r hr hwarn => ?_, by rw [hvalue, List.any_eq_true], fun h more => ?_, ?_⟩
  · have hmem : r ∈ (run server {} steps).records.filter (·.isAboutTrust) :=
      List.mem_filter.mpr ⟨hr, by simp [Log.Record.isAboutTrust, hwarn]⟩
    rw [hrecords] at hmem
    split at hmem
    · obtain rfl := List.mem_singleton.mp hmem
      cases hwarn
    · cases hmem
  · rw [(hstart.run server (steps ++ more)).1, List.any_append, ← hvalue, h]
    rfl
  · refine hcount.trans ?_
    rw [hrecords]
    by_cases hsteps : steps.any (·.isInsecure) = true
    · rw [if_pos hsteps, if_pos (List.any_eq_true.mp hsteps)]
      exact List.count_singleton_self
    · rw [if_neg hsteps, if_neg (fun h => hsteps (List.any_eq_true.mpr h))]
      rfl

end Process

end PipelineLint
