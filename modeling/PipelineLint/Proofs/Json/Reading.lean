import Mathlib.Data.List.Forall2
import PipelineLint.Json.Value
import PipelineLint.Proofs.Json.Strings

/-!
# Reading is recognizing

A reader of values of one shape takes exactly the spellings of the values of that shape. Stated for
every reader alike, this is `Reads`, and the readers of lists, of objects and of nullable values
hand it on: what reads a part determines what reads the whole.

## Where an item may stand

A reader of items looks for the next one in two ways, before the first and behind the others. The
grammar has two relations for these, `Items` and `More`; `Follows` picks one of them, so that a loop
over items is treated by one induction.

## Objects

An object is read by threading what is known so far through its members. `Chain` is the same walk
over the members of a value: one step for each of them, in order.

## Main definitions

* `Json.Reads` — a reader takes the spellings of the values of a shape
* `Json.OrNull` — a shape, or `null`
* `Json.Follows` — what may follow in a list or an object
* `Json.Chain` — a walk over the members of an object

## Main results

* `Json.reads_readText`, `Json.Reads.nullable` — single values
* `Json.Reads.exists_follows`, `Json.Reads.readElements` — lists
* `Json.ReadsMember.exists_follows`, `Json.ReadsMember.readMembers` — objects
-/

namespace PipelineLint.Json

variable {α : Type}

/-- `read` takes the spellings of the values of a shape, and makes of each what the shape says. -/
structure Reads (read : Reader α) (Shape : Tree → α → Prop) : Prop where
  sound {s a rest} : read s = .ok (a, rest) → ∃ s₁ v, Blank s s₁ ∧ Spells s₁ v rest ∧ Shape v a
  complete {s s₁ v a rest} : Blank s s₁ → Spells s₁ v rest → Shape v a → Closed rest →
    read s = .ok (a, rest)

theorem map_eq_ok_iff {β γ : Type} {r : Except Failure β} {f : β → γ} {c : γ} :
    r.map f = .ok c ↔ ∃ b, r = .ok b ∧ f b = c := by
  cases r with
  | error e => simp [Except.map]
  | ok b => simp [Except.map]

/-! ## Single values -/

theorem reads_readText : Reads readText IsText where
  sound {s a rest} h := by
    rw [readText] at h
    split at h
    · cases h
    · next t hquote =>
      obtain ⟨⟨text, rest⟩, hread, hresult⟩ := map_eq_ok_iff.mp h
      cases hresult
      refine ⟨_, _, blank_of_skipSpace hquote, .string (body_of_readString hread), ?_⟩
      rw [IsText, String.toList_ofList]
    · cases h
  complete {s s₁ v a rest} hblank hv hshape _ := by
    cases hshape
    cases hv with
    | string hbody =>
      rw [readText]
      simp [hblank.skipSpace_eq_cons (by decide), hbody.readString, Except.map]

/-- The value is `null` or of the given shape. -/
inductive OrNull (Shape : Tree → α → Prop) : Tree → Option α → Prop
  | null : OrNull Shape .null none
  | some {v a} (h : Shape v a) : OrNull Shape v (some a)

theorem Spells.eq_null {t rest : List Char} {v : Tree} (h : Spells ('n' :: t) v rest) :
    v = .null := by
  generalize hs : 'n' :: t = s at h
  cases h with
  | null => rfl
  | true => cases hs
  | false => cases hs
  | string => cases hs
  | list => cases hs
  | object => cases hs
  | number hw =>
    rcases hw with hw | ⟨u, -, rfl⟩
    · obtain ⟨c, u, rfl, hc⟩ := hw.exists_cons
      obtain rfl := (List.cons.inj hs).1
      exact absurd hc (by decide)
    · cases hs

/-- A reader of values that are never `null` may be asked for `null`, too. -/
theorem Reads.nullable {read : Reader α} {Shape : Tree → α → Prop} (h : Reads read Shape)
    (hnull : ∀ a, ¬ Shape .null a) : Reads (readNullable read) (OrNull Shape) where
  sound {s a rest} hs := by
    rw [readNullable] at hs
    split at hs
    · next t hn =>
      obtain ⟨rest, hword, hresult⟩ := map_eq_ok_iff.mp hs
      cases hresult
      obtain rfl := takeWord_eq_ok_iff.mp hword
      exact ⟨_, _, blank_of_skipSpace hn, .null, .null⟩
    · obtain ⟨⟨a, rest⟩, hread, hresult⟩ := map_eq_ok_iff.mp hs
      cases hresult
      obtain ⟨s₁, v, hblank, hv, hshape⟩ := h.sound hread
      exact ⟨s₁, v, (blank_skipSpace s).trans hblank, hv, .some hshape⟩
  complete {s s₁ v a rest} hblank hv hshape hclosed := by
    rw [readNullable]
    rw [hv.skipSpace_eq hblank]
    cases hshape with
    | null =>
      generalize hnull : Tree.null = v at hv
      cases hv with
      | null => exact map_eq_ok_iff.mpr ⟨_, takeWord_eq_ok_iff.mpr rfl, rfl⟩
      | _ => cases hnull
    | some hshape =>
      have hread := h.complete .none hv hshape hclosed
      split
      · next t =>
        obtain rfl := hv.eq_null
        exact absurd hshape (hnull _)
      · simp only [hread, Except.map]

/-! ## Items -/

/-- `s` is what may follow the opening character, for the first item, or what may follow an item. -/
def Follows (close : Char) (P : List Char → α → List Char → Prop) (first : Bool) (s : List Char)
    (vs : List α) (rest : List Char) : Prop :=
  match first with
  | true => ∃ s₁, Blank s s₁ ∧ Items close P s₁ vs rest
  | false => More close P s vs rest

theorem Blank.follows {close : Char} {P : List Char → α → List Char → Prop} {s rest : List Char}
    (h : Blank s (close :: rest)) (first : Bool) : Follows close P first s [] rest := by
  cases first with
  | true => exact ⟨_, h, .close⟩
  | false => exact .close h

theorem Follows.blank {close : Char} {P : List Char → α → List Char → Prop} {first : Bool}
    {s rest : List Char} (h : Follows close P first s [] rest) : Blank s (close :: rest) := by
  cases first with
  | true =>
    obtain ⟨s₁, hblank, hitems⟩ := h
    cases hitems with
    | close => exact hblank
  | false =>
    cases h with
    | close hblank => exact hblank

theorem nextElement_of_blank {s rest : List Char} (h : Blank s (']' :: rest)) (first : Bool) :
    nextElement first s = .ok (.done (']' :: rest)) := by
  rw [nextElement]
  simp only [h.skipSpace_eq_cons (by decide)]

theorem blank_of_nextElement {first : Bool} {s u : List Char}
    (h : nextElement first s = .ok (.done u)) :
    ∃ rest, u = ']' :: rest ∧ Blank s (']' :: rest) := by
  rw [nextElement] at h
  split at h
  · cases h
  · next t hclose =>
    cases h
    exact ⟨t, rfl, blank_of_skipSpace hclose⟩
  · split at h
    · cases h
    · split at h
      · split at h
        · cases h
        · cases h
        · cases h
      · cases h

/-- Another element is announced where one may stand. -/
theorem follows_of_nextElement {first : Bool} {s u u₁ u₂ rest : List Char} {v : Tree}
    {vs : List Tree} (h : nextElement first s = .ok (.more u)) (hblank : Blank u u₁)
    (hv : Spells u₁ v u₂) (hvs : More ']' Spells u₂ vs rest) :
    Follows ']' Spells first s (v :: vs) rest := by
  rw [nextElement] at h
  split at h
  · cases h
  · cases h
  · next c t hc hspace =>
    split at h
    · next hfirst =>
      cases h
      subst hfirst
      exact ⟨u₁, (blank_of_skipSpace hspace).trans hblank, .item hv hvs⟩
    · next hfirst =>
      obtain rfl : first = false := by simpa using hfirst
      split at h
      · next hcomma =>
        subst hcomma
        split at h
        · cases h
        · cases h
        · cases h
          exact .item (blank_of_skipSpace hspace) ((blank_skipSpace t).trans hblank) hv hvs
      · cases h

theorem not_spells_bracket {t rest : List Char} {v : Tree} : ¬ Spells (']' :: t) v rest := by
  intro h
  obtain ⟨c, u, hs, hc⟩ := h.exists_cons
  obtain rfl := (List.cons.inj hs).1
  exact absurd hc (by decide)

/-- Where another element may stand one is announced. -/
theorem Follows.nextElement {first : Bool} {s rest : List Char} {v : Tree} {vs : List Tree}
    (h : Follows ']' Spells first s (v :: vs) rest) :
    ∃ u u₁, nextElement first s = .ok (.more u) ∧ Spells u v u₁ ∧ More ']' Spells u₁ vs rest ∧
      u₁.length < s.length := by
  cases first with
  | true =>
    obtain ⟨u, hblank, hitems⟩ := h
    cases hitems with
    | @item _ u₁ _ _ _ hv hvs =>
      have hshorter := hblank.length_le
      have hlength := hv.length_lt
      refine ⟨u, u₁, ?_, hv, hvs, by omega⟩
      rw [Json.nextElement]
      rw [hv.skipSpace_eq hblank]
      obtain ⟨c, t, rfl, -⟩ := hv.exists_cons
      split
      · cases ‹_ = _›
      · obtain ⟨rfl, -⟩ := List.cons.inj ‹_›
        exact absurd hv not_spells_bracket
      · simp_all
  | false =>
    cases h with
    | @item _ t u u₁ _ _ _ hcomma hblank hv hvs =>
      have hcomma' := hcomma.length_le
      have hshorter := hblank.length_le
      have hlength := hv.length_lt
      rw [List.length_cons] at hcomma'
      refine ⟨u, u₁, ?_, hv, hvs, by omega⟩
      have hnext := hv.skipSpace_eq hblank
      obtain ⟨c, r, rfl, -⟩ := hv.exists_cons
      rw [Json.nextElement]
      rw [hcomma.skipSpace_eq_cons (by decide)]
      split
      · cases ‹_ = _›
      · exact absurd (List.cons.inj ‹_›).1 (by decide)
      · obtain ⟨rfl, rfl⟩ := List.cons.inj ‹_›
        rw [if_neg (by decide), if_pos rfl, hnext]
        split
        · cases ‹_ = _›
        · obtain ⟨rfl, -⟩ := List.cons.inj ‹_›
          exact absurd hv not_spells_bracket
        · rfl

/-! ## Lists -/

section

variable {element : Reader α} {Shape : Tree → α → Prop}

theorem Reads.exists_follows (h : Reads element Shape) {fuel : Nat} {first : Bool}
    {s rest : List Char} {as : List α}
    (hs : readElementsUpTo element fuel first s = .ok (as, rest)) :
    ∃ vs, Follows ']' Spells first s vs rest ∧ List.Forall₂ Shape vs as := by
  induction fuel generalizing first s as with
  | zero => cases hs
  | succ fuel ih =>
    rw [readElementsUpTo] at hs
    split at hs
    · cases hs
    · next u hdone =>
      obtain ⟨rest, rfl, hblank⟩ := blank_of_nextElement hdone
      cases hs
      exact ⟨[], hblank.follows first, .nil⟩
    · next u hmore =>
      split at hs
      · cases hs
      · next a u' helement =>
        obtain ⟨u₁, v, hblank, hv, hshape⟩ := h.sound helement
        split at hs
        · next as rest hrest =>
          cases hs
          obtain ⟨vs, hvs, hshapes⟩ := ih hrest
          exact ⟨v :: vs, follows_of_nextElement hmore hblank hv hvs, .cons hshape hshapes⟩
        · cases hs

theorem Reads.readElementsUpTo (h : Reads element Shape) {fuel : Nat} {first : Bool}
    {s rest : List Char} {vs : List Tree} {as : List α}
    (hvs : Follows ']' Spells first s vs rest) (hshapes : List.Forall₂ Shape vs as)
    (hfuel : s.length < fuel) : readElementsUpTo element fuel first s = .ok (as, rest) := by
  induction hshapes generalizing fuel first s with
  | nil =>
    obtain ⟨fuel, rfl⟩ := Nat.exists_eq_succ_of_ne_zero (Nat.ne_zero_of_lt hfuel)
    rw [Json.readElementsUpTo]
    rw [nextElement_of_blank hvs.blank]
    rfl
  | cons hshape _ ih =>
    obtain ⟨fuel, rfl⟩ := Nat.exists_eq_succ_of_ne_zero (Nat.ne_zero_of_lt hfuel)
    obtain ⟨u, u₁, hnext, hv, hmore, hlength⟩ := hvs.nextElement
    have hread := h.complete .none hv hshape (hmore.closed closed_bracket)
    have hfollows : Follows ']' Spells false u₁ _ _ := hmore
    have hrest := ih hfollows (Nat.lt_of_lt_of_le hlength (Nat.le_of_lt_succ hfuel))
    rw [Json.readElementsUpTo]
    simp only [hnext, hread, hrest]

theorem Reads.readElements (h : Reads element Shape) {s s₁ rest : List Char} {vs : List Tree}
    {as : List α} (hblank : Blank s s₁) (hvs : Items ']' Spells s₁ vs rest)
    (hshapes : List.Forall₂ Shape vs as) : readElements element s = .ok (as, rest) :=
  have hfollows : Follows ']' Spells true s vs rest := ⟨s₁, hblank, hvs⟩
  h.readElementsUpTo hfollows hshapes (Nat.lt_succ_self _)

end

/-! ## Objects -/

theorem nextMember_of_blank {s rest : List Char} (h : Blank s ('\x7d' :: rest)) (first : Bool) :
    nextMember first s = .ok (.done ('\x7d' :: rest)) := by
  rw [nextMember]
  simp only [h.skipSpace_eq_cons (by decide)]

theorem blank_of_nextMember {first : Bool} {s u : List Char}
    (h : nextMember first s = .ok (.done u)) :
    ∃ rest, u = '\x7d' :: rest ∧ Blank s ('\x7d' :: rest) := by
  rw [nextMember] at h
  split at h
  · cases h
  · next t hclose =>
    cases h
    exact ⟨t, rfl, blank_of_skipSpace hclose⟩
  · split at h
    · split at h
      · cases h
      · cases h
    · split at h
      · split at h
        · cases h
        · cases h
        · cases h
        · cases h
      · cases h

/-- Another member is announced where one may stand. -/
theorem follows_of_nextMember {first : Bool} {s u u₁ rest : List Char} {m : List Nat × Tree}
    {ms : List (List Nat × Tree)} (h : nextMember first s = .ok (.more u))
    (hm : Member Spells ('"' :: u) m u₁) (hms : More '\x7d' (Member Spells) u₁ ms rest) :
    Follows '\x7d' (Member Spells) first s (m :: ms) rest := by
  rw [nextMember] at h
  split at h
  · cases h
  · cases h
  · next c t hc hspace =>
    split at h
    · next hfirst =>
      subst hfirst
      split at h
      · next hquote =>
        cases h
        subst hquote
        exact ⟨_, blank_of_skipSpace hspace, .item hm hms⟩
      · cases h
    · next hfirst =>
      obtain rfl : first = false := by simpa using hfirst
      split at h
      · next hcomma =>
        subst hcomma
        split at h
        · cases h
        · next hquote =>
          cases h
          exact .item (blank_of_skipSpace hspace) (blank_of_skipSpace hquote) hm hms
        · cases h
        · cases h
      · cases h

/-- Where another member may stand one is announced. -/
theorem Follows.nextMember {first : Bool} {s rest : List Char} {m : List Nat × Tree}
    {ms : List (List Nat × Tree)} (h : Follows '\x7d' (Member Spells) first s (m :: ms) rest) :
    ∃ u u₁, nextMember first s = .ok (.more u) ∧ Member Spells ('"' :: u) m u₁ ∧
      More '\x7d' (Member Spells) u₁ ms rest ∧ u₁.length < s.length := by
  cases first with
  | true =>
    obtain ⟨u, hblank, hitems⟩ := h
    cases hitems with
    | item hm hms =>
      have hshorter := hblank.length_le
      have hlength := hm.spells_length_lt
      obtain ⟨hbody, hcolon, hvalue, hv⟩ := hm
      refine ⟨_, _, ?_, .mk hbody hcolon hvalue hv, hms, by omega⟩
      rw [Json.nextMember]
      simp [hblank.skipSpace_eq_cons (by decide)]
  | false =>
    cases h with
    | item hcomma hblank hm hms =>
      have hcomma' := hcomma.length_le
      have hshorter := hblank.length_le
      have hlength := hm.spells_length_lt
      rw [List.length_cons] at hcomma'
      obtain ⟨hbody, hcolon, hvalue, hv⟩ := hm
      refine ⟨_, _, ?_, .mk hbody hcolon hvalue hv, hms, by omega⟩
      rw [Json.nextMember]
      simp [hcomma.skipSpace_eq_cons (by decide), hblank.skipSpace_eq_cons (by decide)]

theorem takeColon_eq_ok_iff {s rest : List Char} :
    takeColon s = .ok rest ↔ Blank s (':' :: rest) := by
  rw [takeColon]
  constructor
  · intro h
    split at h
    · cases h
    · next t hcolon =>
      cases h
      exact blank_of_skipSpace hcolon
    · cases h
  · intro h
    simp only [h.skipSpace_eq_cons (by decide)]

section

variable {σ : Type}

/-- A walk over the members of an object: one step for each of them, which changes what is known.
Every name is a text. -/
inductive Chain (Step : σ → String → Tree → σ → Prop) : σ → List (List Nat × Tree) → σ → Prop
  | nil {known} : Chain Step known [] known
  | cons {known known₁ known₂ name v ms} (h : Step known name v known₁)
      (hms : Chain Step known₁ ms known₂) :
      Chain Step known ((utf16 name.toList, v) :: ms) known₂

/-- What a walk over some members comes to, told from a walk over none and from one step more. -/
theorem chain_iff {Step : σ → String → Tree → σ → Prop}
    {W : σ → List (List Nat × Tree) → σ → Prop}
    (hnil : ∀ known known', W known [] known' ↔ known' = known)
    (hcons : ∀ known name v ms known', W known ((utf16 name.toList, v) :: ms) known' ↔
      ∃ known₁, Step known name v known₁ ∧ W known₁ ms known')
    {known known' : σ} {ms : List (List Nat × Tree)} :
    Chain Step known ms known' ↔
      (∀ m ∈ ms, ∃ name : String, m.1 = utf16 name.toList) ∧ W known ms known' := by
  constructor
  · intro h
    induction h with
    | nil => exact ⟨fun _ h => absurd h List.not_mem_nil, (hnil _ _).mpr rfl⟩
    | cons hstep _ ih =>
      obtain ⟨hnames, hwalk⟩ := ih
      exact ⟨List.forall_mem_cons.mpr ⟨⟨_, rfl⟩, hnames⟩, (hcons ..).mpr ⟨_, hstep, hwalk⟩⟩
  · rintro ⟨hnames, hwalk⟩
    induction ms generalizing known with
    | nil =>
      obtain rfl := (hnil _ _).mp hwalk
      exact .nil
    | cons m ms ih =>
      obtain ⟨us, v⟩ := m
      obtain ⟨⟨name, hname⟩, hmore⟩ := List.forall_mem_cons.mp hnames
      obtain rfl : us = utf16 name.toList := hname
      obtain ⟨known₁, hstep, hwalk⟩ := (hcons ..).mp hwalk
      exact .cons hstep (ih hmore hwalk)

/-- `member` takes a colon and the spelling of a value, and makes of it what the step says. -/
structure ReadsMember (member : σ → String → Reader σ) (Step : σ → String → Tree → σ → Prop) :
    Prop where
  sound {known known' name s rest} : member known name s = .ok (known', rest) →
    ∃ t u v, Blank s (':' :: t) ∧ Blank t u ∧ Spells u v rest ∧ Step known name v known'
  complete {known known' name s t u v rest} : Blank s (':' :: t) → Blank t u → Spells u v rest →
    Step known name v known' → Closed rest → member known name s = .ok (known', rest)

variable {member : σ → String → Reader σ} {Step : σ → String → Tree → σ → Prop}

theorem ReadsMember.exists_follows (h : ReadsMember member Step) {fuel : Nat} {first : Bool}
    {known known' : σ} {s rest : List Char}
    (hs : readMembersUpTo member fuel first known s = .ok (known', rest)) :
    ∃ ms, Follows '\x7d' (Member Spells) first s ms rest ∧ Chain Step known ms known' := by
  induction fuel generalizing first known s with
  | zero => cases hs
  | succ fuel ih =>
    rw [readMembersUpTo] at hs
    split at hs
    · cases hs
    · next u hdone =>
      obtain ⟨rest, rfl, hblank⟩ := blank_of_nextMember hdone
      cases hs
      exact ⟨[], hblank.follows first, .nil⟩
    · next u hmore =>
      split at hs
      · cases hs
      · next name u' hname =>
        split at hs
        · cases hs
        · next known₁ u'' hmember =>
          obtain ⟨t, r, v, hcolon, hblank, hv, hstep⟩ := h.sound hmember
          obtain ⟨ms, hms, hchain⟩ := ih hs
          have hbody := body_of_readString hname
          rw [← String.toList_ofList (l := name)] at hbody
          exact ⟨_ :: ms, follows_of_nextMember hmore (.mk hbody hcolon hblank hv) hms,
            .cons hstep hchain⟩

theorem ReadsMember.readMembersUpTo (h : ReadsMember member Step) {fuel : Nat} {first : Bool}
    {known known' : σ} {s rest : List Char} {ms : List (List Nat × Tree)}
    (hms : Follows '\x7d' (Member Spells) first s ms rest) (hchain : Chain Step known ms known')
    (hfuel : s.length < fuel) :
    readMembersUpTo member fuel first known s = .ok (known', rest) := by
  induction hchain generalizing fuel first s with
  | nil =>
    obtain ⟨fuel, rfl⟩ := Nat.exists_eq_succ_of_ne_zero (Nat.ne_zero_of_lt hfuel)
    rw [Json.readMembersUpTo]
    rw [nextMember_of_blank hms.blank]
    rfl
  | cons hstep _ ih =>
    obtain ⟨fuel, rfl⟩ := Nat.exists_eq_succ_of_ne_zero (Nat.ne_zero_of_lt hfuel)
    obtain ⟨u, u₁, hnext, hm, hmore, hlength⟩ := hms.nextMember
    have hfollows : Follows '\x7d' (Member Spells) false u₁ _ _ := hmore
    have hrest := ih hfollows (Nat.lt_of_lt_of_le hlength (Nat.le_of_lt_succ hfuel))
    cases hm with
    | mk hbody hcolon hblank hv =>
      have hread := h.complete hcolon hblank hv hstep (hmore.closed closed_brace)
      rw [Json.readMembersUpTo]
      simp only [hnext, hbody.readString, String.ofList_toList, hread, hrest]

theorem ReadsMember.readMembers (h : ReadsMember member Step) {known known' : σ}
    {s s₁ rest : List Char} {ms : List (List Nat × Tree)} (hblank : Blank s s₁)
    (hms : Items '\x7d' (Member Spells) s₁ ms rest) (hchain : Chain Step known ms known') :
    readMembers member known s = .ok (known', rest) :=
  have hfollows : Follows '\x7d' (Member Spells) true s ms rest := ⟨s₁, hblank, hms⟩
  h.readMembersUpTo hfollows hchain (Nat.lt_succ_self _)

end

end PipelineLint.Json
