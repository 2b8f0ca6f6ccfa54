import PipelineLint.Proofs.Lint.Verdict

/-!
# How often files are linted

Linting files is a loop around something that nothing is known about: it has a state of its own, it
prints to a sink of any kind, it makes records, and it may fail. So what the loop does can only be
said through that thing itself. Here it is made to remember every time that it is asked: for which
path, what it found, what it left, and what it answered.

Watched in this way, a linter behaves as before, and what it remembers afterwards is the whole
story. There is one visit for each path, in the order of the paths. Nothing happens between two
visits: each of them finds the sink and the state that the one before it left. All that the loop
itself adds is a record for each visit that failed, right behind the records of that visit.

## Main definitions

* `Visit` — one time that a file is linted
* `Linter.watched` — a linter that remembers its visits
* `Visits` — visits of which each finds what the one before it left

## Main results

* `run_lintFiles_watched` — watching a linter changes nothing
* `visits_lintFiles` — what is visited, printed, recorded and answered
-/

namespace PipelineLint

variable {σ ω : Type}

/-- One time that a file is linted. -/
structure Visit (σ ω : Type) where
  path : String
  /-- The sink and the linter's state before. -/
  found : ω × σ
  /-- The sink and the linter's state after it. -/
  left : ω × σ
  verdict : Except ValidationError Bool
  /-- What the linter itself recorded. -/
  records : List Log.Record

/-- The visit that a linter makes of a path. -/
def Linter.visit (linter : Linter σ ω) (path : String) (out : ω) (t : σ) : Visit σ ω :=
  let done := (linter path out).run t
  { path, found := (out, t), left := (done.value.1.2, done.value.2), verdict := done.value.1.1,
    records := done.records }

/-- A linter that remembers its visits, the first one first. -/
def Linter.watched (linter : Linter σ ω) : Linter (σ × List (Visit σ ω)) ω := fun path out past =>
  let visit := linter.visit path out past.1
  ⟨((visit.verdict, visit.left.1), visit.left.2, past.2 ++ [visit]), visit.records⟩

/-- What is recorded about a visit beside the linter's own records. -/
def Visit.failure (v : Visit σ ω) : List Log.Record :=
  match v.verdict with
  | .error e => [⟨.error, e.message⟩]
  | .ok _ => []

/-- Visits of a linter. Each of them finds what the one before it left, and the last one leaves
what is given last. -/
inductive Visits (linter : Linter σ ω) : ω × σ → List (Visit σ ω) → ω × σ → Prop
  | nil {found} : Visits linter found [] found
  | cons {path out t visits last}
      (hmore : Visits linter (linter.visit path out t).left visits last) :
      Visits linter (out, t) (linter.visit path out t :: visits) last

/-! ## Watching -/

theorem records_judge (v : Visit σ ω) : (judge v.verdict).records = v.failure := by
  rw [Visit.failure]
  cases v.verdict with
  | error e => rfl
  | ok valid => rfl

/-- Linting one more file, told by its visit. -/
theorem run_lintFiles_cons (linter : Linter σ ω) (path : String) (paths : List String) (out : ω)
    (t : σ) :
    (lintFiles linter (path :: paths) out).run t =
      let visit := linter.visit path out t
      let more := (lintFiles linter paths visit.left.1).run visit.left.2
      ⟨(((judge visit.verdict).value && more.value.1.1, more.value.1.2), more.value.2),
        visit.records ++ (visit.failure ++ more.records)⟩ := by
  have hvalue : ((lintFiles linter (path :: paths) out).run t).value =
      let visit := linter.visit path out t
      let more := ((lintFiles linter paths visit.left.1).run visit.left.2).value
      (((judge visit.verdict).value && more.1.1, more.1.2), more.2) := rfl
  have hrecords : ((lintFiles linter (path :: paths) out).run t).records =
      let visit := linter.visit path out t
      visit.records ++ (visit.failure ++
        ((lintFiles linter paths visit.left.1).run visit.left.2).records) := by
    simp only [lintFiles, Action.records_bind, Action.records_lift, Action.records_pure,
      List.append_nil, ← records_judge]
    rfl
  exact Logged.ext hvalue hrecords

/-- **Watching a linter changes nothing**, and what it remembers is added to what it remembered. -/
theorem run_lintFiles_watched (linter : Linter σ ω) (paths : List String) (out : ω) (t : σ)
    (past : List (Visit σ ω)) :
    ∃ visits,
      let done := (lintFiles linter paths out).run t
      (lintFiles linter.watched paths out).run (t, past) =
        ⟨(done.value.1, done.value.2, past ++ visits), done.records⟩ ∧
      visits.map (·.path) = paths ∧ Visits linter (out, t) visits (done.value.1.2, done.value.2) ∧
      done.records = visits.flatMap (fun v => v.records ++ v.failure) ∧
      (done.value.1.1 = true ↔ ∀ v ∈ visits, v.verdict = .ok true) := by
  induction paths generalizing out t past with
  | nil => exact ⟨[], by rw [List.append_nil]; rfl, rfl, .nil, rfl, by simp [lintFiles]⟩
  | cons path paths ih =>
    have hwatched : linter.watched.visit path out (t, past) =
        { path, found := (out, t, past)
          left := ((linter.visit path out t).left.1, (linter.visit path out t).left.2,
            past ++ [linter.visit path out t])
          verdict := (linter.visit path out t).verdict
          records := (linter.visit path out t).records } := rfl
    rw [run_lintFiles_cons, run_lintFiles_cons, hwatched]
    generalize hvisit : linter.visit path out t = visit
    obtain ⟨visits, hmore, hpaths, hlinked, hrecords, hstatus⟩ :=
      ih visit.left.1 visit.left.2 (past ++ [visit])
    refine ⟨visit :: visits, ?_, ?_, ?_, ?_, ?_⟩
    · simp only [hmore, List.append_assoc, List.singleton_append]
      rfl
    · rw [List.map_cons, hpaths, ← hvisit]
      rfl
    · subst hvisit
      exact .cons hlinked
    · rw [List.flatMap_cons, ← hrecords, List.append_assoc]
    · rw [Bool.and_eq_true, value_judge_eq_true_iff, hstatus, List.forall_mem_cons]

/-! ## What is printed -/

/-- What visits add one after the other to a sink is what the sink has more in the end. -/
theorem Visits.contents_eq {α : Type} {linter : Linter σ ω} {found last : ω × σ}
    {visits : List (Visit σ ω)} (h : Visits linter found visits last) (contents : ω → List α)
    (printed : Visit σ ω → List α)
    (hprinted : ∀ v ∈ visits, contents v.left.1 = contents v.found.1 ++ printed v) :
    contents last.1 = contents found.1 ++ visits.flatMap printed := by
  induction h with
  | nil => rw [List.flatMap_nil, List.append_nil]
  | @cons path out t visits last _ ih =>
    have hfirst := hprinted _ List.mem_cons_self
    have hmore := ih fun v hv => hprinted v (List.mem_cons_of_mem _ hv)
    rw [hmore, hfirst, List.flatMap_cons, List.append_assoc]
    rfl

/-- **What linting files does**, for every linter and every kind of sink. -/
theorem visits_lintFiles (linter : Linter σ ω) (paths : List String) (out : ω) (t : σ) :
    let done := (lintFiles linter paths out).run t
    let seen := (lintFiles linter.watched paths out).run (t, [])
    let visits := seen.value.2.2
    seen.value = (done.value.1, done.value.2, visits) ∧ seen.records = done.records ∧
      visits.map (·.path) = paths ∧
      Visits linter (out, t) visits (done.value.1.2, done.value.2) ∧
      (∀ (contents : ω → List UInt8) (printed : Visit σ ω → List UInt8),
        (∀ v ∈ visits, contents v.left.1 = contents v.found.1 ++ printed v) →
        contents done.value.1.2 = contents out ++ visits.flatMap printed) ∧
      done.records = visits.flatMap (fun v => v.records ++
        match v.verdict with
        | .error e => [⟨.error, e.message⟩]
        | .ok _ => []) ∧
      (done.value.1.1 = true ↔ ∀ v ∈ visits, v.verdict = .ok true) := by
  intro done seen visits
  obtain ⟨visits', hseen, hpaths, hlinked, hrecords, hstatus⟩ :=
    run_lintFiles_watched linter paths out t []
  obtain rfl : visits' = visits := by
    simp only [visits, seen, hseen, List.nil_append]
  refine ⟨?_, ?_, hpaths, hlinked, fun contents printed => hlinked.contents_eq contents printed,
    hrecords, hstatus⟩
  · simp only [seen, hseen, List.nil_append]
    rfl
  · simp only [seen, hseen]
    rfl

end PipelineLint
