import Mathlib.Tactic.MkIffOfInductiveProp
import Mathlib.Tactic.Tauto
import PipelineLint.CommandLine

/-!
# Pieces of a command line

A command line gives flags, values and files, one after the other. Whatever way they are written,
all that counts is these pieces and their order.

## Values that wait

A value is not judged when it is read, but when the next argument is known; files that stand beside
each other are judged together. That changes no outcome. To read a piece and to take it at once come
to the same, as soon as what waits is judged, and readers for which this is so can be put one behind
the other. The one place where no piece ends is between an option and its value.

## Main definitions

* `CommandLine.Piece` — a flag, an option's value, or a file
* `CommandLine.Draft.take` — takes a piece at once
* `CommandLine.Takes` — a reader comes to taking certain pieces
* `CommandLine.Joins` — what pieces add to a draft

## Main results

* `CommandLine.Takes.bind` — readers one behind the other
* `CommandLine.foldlM_take_eq_ok_iff` — which pieces can be taken, and what comes of it
-/

namespace PipelineLint.CommandLine

/-- What one part of a command line says. -/
inductive Piece where
  | flag (f : Flag)
  | setting (s : Setting) (value : List Char)
  | file (name : List Char)
  deriving DecidableEq, Repr

namespace Draft

/-- Takes a piece at once. -/
def take (d : Draft) : Piece → Except UsageError Draft
  | .flag f => d.setFlag f
  | .setting s value => d.setValue value s
  | .file name => d.assign [name] .files

/-- No option waits for its value. -/
def IsReady (d : Draft) : Prop := ∀ s, d.waiting ≠ some (.setting s, [])

variable {d d' : Draft}

theorem isReady_of_none (h : d.waiting = none) : d.IsReady := fun s => by simp [h]

theorem settle_of_none (h : d.waiting = none) : d.settle = .ok d := by
  rw [settle, h]

theorem setFlag_waiting {f : Flag} (h : d.setFlag f = .ok d') : d'.waiting = d.waiting := by
  cases f with
  | insecure =>
    simp only [setFlag] at h
    split at h <;> cases h
    rfl
  | debug =>
    simp only [setFlag] at h
    split at h <;> cases h
    rfl
  | help => cases h
  | version => cases h

theorem setValue_waiting {s : Setting} {value : List Char} (h : d.setValue value s = .ok d') :
    d'.waiting = d.waiting := by
  cases s with
  | config =>
    simp only [setValue] at h
    split at h <;> try split at h
    all_goals cases h
    rfl
  | profile =>
    simp only [setValue] at h
    split at h <;> cases h
    rfl
  | timeout =>
    simp only [setValue] at h
    split at h <;> try split at h
    all_goals cases h
    rfl

theorem assign_waiting {values : List (List Char)} {target : Target}
    (h : d.assign values target = .ok d') : d'.waiting = d.waiting := by
  cases target with
  | setting s =>
    cases values with
    | nil => cases h
    | cons value more => exact setValue_waiting h
  | files =>
    simp only [assign] at h
    split at h <;> cases h
    rfl

theorem take_waiting {p : Piece} (h : d.take p = .ok d') : d'.waiting = d.waiting := by
  rw [take.eq_def] at h
  cases p with
  | flag f => exact setFlag_waiting h
  | setting s value => exact setValue_waiting h
  | file name => exact assign_waiting h

/-- Once judged, nothing waits. -/
theorem settle_waiting (h : d.settle = .ok d') : d'.waiting = none := by
  rw [settle] at h
  split at h
  next hnone =>
    cases h
    exact hnone
  next => exact assign_waiting h

/-- Files are judged together as they are one by one. -/
theorem assign_append (d : Draft) (names more : List (List Char)) :
    d.assign (names ++ more) .files = d.assign names .files >>= (·.assign more .files) := by
  simp only [assign, List.any_append, Bool.or_eq_true]
  by_cases hnames : names.any (·.isEmpty) = true
  · rw [if_pos (.inl hnames), if_pos hnames]
    rfl
  · rw [if_neg hnames]
    change _ = Draft.assign _ more .files
    simp [hnames, assign]

end Draft

/-! ## Readers that take pieces -/

/-- A reader comes to taking certain pieces: once the values that wait are judged, there is no
difference. It may be used again behind itself. -/
structure Takes (read : Draft → Except UsageError Draft) (ps : List Piece) : Prop where
  settle : ∀ d : Draft, d.IsReady →
    (read d >>= Draft.settle) = d.settle >>= fun d => ps.foldlM Draft.take d
  ready : ∀ d d' : Draft, d.IsReady → read d = .ok d' → d'.IsReady

variable {read more : Draft → Except UsageError Draft} {ps qs : List Piece}

theorem bind_eq_ok_iff {ε α β : Type} {x : Except ε α} {f : α → Except ε β} {b : β} :
    (x >>= f) = .ok b ↔ ∃ a, x = .ok a ∧ f a = .ok b := by
  cases x with
  | error e => exact iff_of_false nofun (by simp)
  | ok a => simp [bind, Except.bind]

theorem takes_nil : Takes .ok [] where
  settle d _ := (bind_pure d.settle).symm
  ready d d' hd h := by
    cases h
    exact hd

/-- **Readers one behind the other.** -/
theorem Takes.bind (h : Takes read ps) (h' : Takes more qs) :
    Takes (fun d => read d >>= more) (ps ++ qs) where
  settle d hd := by
    have hmore : (read d >>= fun d => more d >>= Draft.settle) =
        read d >>= fun d => d.settle >>= fun d => qs.foldlM Draft.take d := by
      cases hread : read d with
      | error e => rfl
      | ok d₁ => exact h'.settle d₁ (h.ready d d₁ hd hread)
    calc (read d >>= more) >>= Draft.settle
        = read d >>= fun d => d.settle >>= fun d => qs.foldlM Draft.take d := by
          rw [bind_assoc, hmore]
      _ = (d.settle >>= fun d => ps.foldlM Draft.take d) >>= fun d =>
            qs.foldlM Draft.take d := by rw [← bind_assoc, h.settle d hd]
      _ = d.settle >>= fun d => (ps ++ qs).foldlM Draft.take d := by
          rw [bind_assoc]
          simp only [List.foldlM_append]
  ready d d' hd hread := by
    obtain ⟨d₁, hfirst, hmore⟩ := bind_eq_ok_iff.mp hread
    exact h'.ready d₁ d' (h.ready d d₁ hd hfirst) hmore

/-- To judge what waits and then to take a piece comes to taking the piece. -/
theorem takes_take (p : Piece) : Takes (fun d => d.settle >>= (·.take p)) [p] where
  settle d _ := by
    have hjudged : ∀ d₁, d.settle = .ok d₁ → (d₁.take p >>= Draft.settle) = d₁.take p := by
      intro d₁ hsettle
      cases htake : d₁.take p with
      | error e => rfl
      | ok d₂ =>
        exact Draft.settle_of_none ((Draft.take_waiting htake).trans (Draft.settle_waiting hsettle))
    simp only [List.foldlM_cons, List.foldlM_nil, bind_pure]
    cases hsettle : d.settle with
    | error e => rfl
    | ok d₁ => exact hjudged d₁ hsettle
  ready d d' _ h := by
    obtain ⟨d₁, hsettle, htake⟩ := bind_eq_ok_iff.mp h
    exact Draft.isReady_of_none ((Draft.take_waiting htake).trans (Draft.settle_waiting hsettle))

theorem takes_flag (f : Flag) : Takes (·.flag f) [.flag f] := takes_take (.flag f)

theorem takes_value (s : Setting) (value : List Char) :
    Takes (·.setting s (some value)) [.setting s value] := takes_take (.setting s value)

/-- What is made to wait by a reader that judges what waited before is taken as a piece. -/
theorem takes_waiting {p : Piece} {waiting : Target × List (List Char)}
    (hsettle : ∀ d : Draft, d.waiting = none →
      { d with waiting := some waiting }.settle = d.take p)
    (hready : ∀ s, waiting ≠ (.setting s, [])) :
    Takes (fun d => d.settle >>= fun d => .ok { d with waiting := some waiting }) [p] where
  settle d _ := by
    simp only [List.foldlM_cons, List.foldlM_nil, bind_pure]
    cases hd : d.settle with
    | error e => rfl
    | ok d₁ => exact hsettle d₁ (Draft.settle_waiting hd)
  ready d d' _ h := by
    obtain ⟨d₁, -, heq⟩ := bind_eq_ok_iff.mp h
    cases heq
    exact fun s hs => hready s (Option.some.inj hs)

theorem takes_separate (s : Setting) (value : List Char) :
    Takes (fun d => d.setting s none >>= (·.operand value)) [.setting s value] := by
  have hread : (fun d : Draft => d.setting s none >>= (·.operand value)) =
      fun d => d.settle >>= fun d => .ok { d with waiting := some (.setting s, [value]) } := by
    funext d
    rw [Draft.setting, bind_assoc]
    rfl
  rw [hread]
  refine takes_waiting (fun d hd => ?_) fun s' => by simp
  obtain ⟨config, profile, timeout, insecure, debug, files, waiting⟩ := d
  cases hd
  rfl

/-- A file that no other file stands before. -/
theorem takes_first (name : List Char) :
    Takes (fun d => d.settle >>= fun d => .ok { d with waiting := some (.files, [name]) })
      [.file name] := by
  refine takes_waiting (fun d hd => ?_) fun s => by simp
  obtain ⟨config, profile, timeout, insecure, debug, files, waiting⟩ := d
  cases hd
  rfl

theorem takes_file (name : List Char) : Takes (·.file name) [.file name] where
  settle d hd := by
    rw [Draft.file]
    split
    next names hnames =>
      change Draft.assign _ (names ++ [name]) .files = _
      rw [Draft.assign_append, Draft.settle, hnames]
      simp only [List.foldlM_cons, List.foldlM_nil, bind_pure]
      rfl
    next => exact (takes_first name).settle d hd
  ready d d' hd h := by
    rw [Draft.file] at h
    split at h
    next =>
      cases h
      exact fun s hs => by simp at hs
    next => exact (takes_first name).ready d d' hd h

/-- A word that is no option is a file where no option waits for its value. -/
theorem operand_of_isReady {d : Draft} (hd : d.IsReady) (word : List Char) :
    d.operand word = d.file word := by
  rw [Draft.operand]
  split
  next s hs => exact absurd hs (hd s)
  next => rfl

theorem takes_operand (name : List Char) : Takes (·.operand name) [.file name] where
  settle d hd := by
    rw [operand_of_isReady hd]
    exact (takes_file name).settle d hd
  ready d d' hd h := by
    rw [operand_of_isReady hd] at h
    exact (takes_file name).ready d d' hd h

/-! ## What pieces add -/

/-- The values that pieces give an option, in their order. -/
@[simp] def valuesOf (s : Setting) : List Piece → List (List Char)
  | [] => []
  | .flag _ :: ps => valuesOf s ps
  | .setting o value :: ps => if o = s then value :: valuesOf s ps else valuesOf s ps
  | .file _ :: ps => valuesOf s ps

/-- The files among pieces, in their order. -/
@[simp] def filesOf : List Piece → List (List Char)
  | [] => []
  | .flag _ :: ps => filesOf ps
  | .setting _ _ :: ps => filesOf ps
  | .file name :: ps => name :: filesOf ps

/-- Pieces lead from one draft to another. A draft has at most one value of each option, and a flag
is set or not, so that nothing can be given again. -/
@[mk_iff]
structure Joins (d : Draft) (ps : List Piece) (d' : Draft) : Prop where
  config : d'.config.toList = d.config.toList ++ (valuesOf .config ps).map String.ofList
  profile : d'.profile.toList = d.profile.toList ++ (valuesOf .profile ps).map String.ofList
  timeout : (d'.timeout.map Except.ok).toList =
    (d.timeout.map Except.ok).toList ++ (valuesOf .timeout ps).map readTimeout
  insecure : d'.insecure.toNat = d.insecure.toNat + ps.count (.flag .insecure)
  debug : d'.debug.toNat = d.debug.toNat + ps.count (.flag .debug)
  files : d'.files = d.files ++ (filesOf ps).map String.ofList
  named : [] ∉ valuesOf .config ps ∧ [] ∉ filesOf ps
  noRequest : .flag .help ∉ ps ∧ .flag .version ∉ ps
  waiting : d'.waiting = d.waiting

section

variable {α : Type} {o o' : Option α}

theorem toList_inj : o.toList = o'.toList ↔ o = o' := by
  cases o <;> cases o' <;> simp

/-- There is no room for a second value. -/
theorem toList_eq_append_cons_iff {x : α} {l : List α} :
    o'.toList = o.toList ++ x :: l ↔ o = none ∧ o'.toList = x :: l := by
  cases o with
  | none => simp
  | some y => cases o' <;> simp

theorem toNat_inj {b b' : Bool} : b.toNat = b'.toNat ↔ b = b' := by
  cases b <;> cases b' <;> simp

/-- No flag is set twice. -/
theorem toNat_eq_add_succ_iff {b b' : Bool} {n : Nat} :
    b'.toNat = b.toNat + (n + 1) ↔ b = false ∧ b'.toNat = 1 + n := by
  cases b <;> cases b' <;> simp
  all_goals omega

end

/-- A step that is refused in one case. -/
theorem exists_ite_eq_ok_iff {α ε : Type} {c : Prop} [Decidable c] {e : ε} {x : Except ε α}
    {p : α → Prop} :
    (∃ a, (if c then .error e else x) = .ok a ∧ p a) ↔ ¬ c ∧ ∃ a, x = .ok a ∧ p a := by
  by_cases hc : c
  · simp [hc]
  · simp [hc]

theorem exists_ok_eq_ok_iff {α ε : Type} {b : α} {p : α → Prop} :
    (∃ a, (Except.ok b : Except ε α) = .ok a ∧ p a) ↔ p b := by
  simp

theorem joins_nil_iff {d d' : Draft} : Joins d [] d' ↔ d = d' := by
  constructor
  · intro h
    obtain ⟨config, profile, timeout, insecure, debug, files, waiting⟩ := d
    obtain ⟨config', profile', timeout', insecure', debug', files', waiting'⟩ := d'
    obtain rfl : config' = config := by simpa [toList_inj] using h.config
    obtain rfl : profile' = profile := by simpa [toList_inj] using h.profile
    obtain rfl : timeout' = timeout :=
      Option.map_injective (fun _ _ => Except.ok.inj) (by simpa [toList_inj] using h.timeout)
    obtain rfl : insecure' = insecure := toNat_inj.mp (by simpa using h.insecure)
    obtain rfl : debug' = debug := toNat_inj.mp (by simpa using h.debug)
    obtain rfl : files' = files := by simpa using h.files
    obtain rfl : waiting' = waiting := h.waiting
    rfl
  · rintro rfl
    simp [joins_iff]

/-- **One piece more.** -/
theorem joins_cons_iff {d d' : Draft} {p : Piece} :
    Joins d (p :: ps) d' ↔ ∃ d₁, d.take p = .ok d₁ ∧ Joins d₁ ps d' := by
  cases p with
  | flag f =>
    cases f with
    | insecure =>
      simp only [Draft.take, Draft.setFlag, exists_ite_eq_ok_iff, exists_ok_eq_ok_iff]
      simp [joins_iff, toNat_eq_add_succ_iff]
      tauto
    | debug =>
      simp only [Draft.take, Draft.setFlag, exists_ite_eq_ok_iff, exists_ok_eq_ok_iff]
      simp [joins_iff, toNat_eq_add_succ_iff]
      tauto
    | help => simp [Draft.take, Draft.setFlag, joins_iff]
    | version => simp [Draft.take, Draft.setFlag, joins_iff]
  | setting s value =>
    cases s with
    | config =>
      simp only [Draft.take, Draft.setValue, exists_ite_eq_ok_iff, exists_ok_eq_ok_iff]
      simp [joins_iff, toList_eq_append_cons_iff]
      tauto
    | profile =>
      simp only [Draft.take, Draft.setValue, exists_ite_eq_ok_iff, exists_ok_eq_ok_iff]
      simp [joins_iff, toList_eq_append_cons_iff]
      tauto
    | timeout =>
      simp only [Draft.take, Draft.setValue, exists_ite_eq_ok_iff]
      cases hread : readTimeout value with
      | error fault =>
        refine iff_of_false (fun h => ?_) (by simp)
        have htimeout := h.timeout
        simp only [valuesOf, if_true, List.map_cons, hread, toList_eq_append_cons_iff] at htimeout
        cases hd' : d'.timeout <;> simp [hd'] at htimeout
      | ok n =>
        simp [joins_iff, hread, toList_eq_append_cons_iff]
        tauto
  | file name =>
    simp only [Draft.take, Draft.assign, exists_ite_eq_ok_iff, exists_ok_eq_ok_iff]
    simp [joins_iff]
    tauto

/-- **What pieces are taken, and what comes of it.** -/
theorem foldlM_take_eq_ok_iff {d d' : Draft} :
    ps.foldlM Draft.take d = .ok d' ↔ Joins d ps d' := by
  induction ps generalizing d with
  | nil => exact Except.ok.injEq d d' ▸ joins_nil_iff.symm
  | cons p ps ih =>
    rw [List.foldlM_cons, bind_eq_ok_iff, joins_cons_iff]
    simp only [ih]

end PipelineLint.CommandLine
