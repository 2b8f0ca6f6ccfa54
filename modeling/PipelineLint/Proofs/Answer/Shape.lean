import Mathlib.Data.List.Forall2
import PipelineLint.Answer
import PipelineLint.Proofs.Json.Grammar

/-!
# The shape of an answer

Which JSON values are answers, and which answer each of them is. An answer is put together from
values, not from a text, so whatever the grammar calls the same value is the same answer.

## Structures

The validator's structures may be spelled as objects or as lists. `Stands` says once for both what
the values of their fields are: those of the members of a name, or the value at a place. A field
that no value is given for reads as `null`, and a field may not have two values; members of other
names do not matter, but their names have to be texts like all others.

## What does not matter

Two values are `Alike` when their structures have the same fields. So the order of members, members
of other names, `null` in the place of nothing, and the choice between the two spellings of a
structure are all covered. Within an entry everything matters: its members are no fields, and their
order is the order of the messages.

## Main definitions

* `Answer.Stands`, `Answer.Field` — structures and their fields
* `Answer.IsMessages`, `Answer.IsEntry`, `Answer.IsErrors`, `Answer.IsData`, `Answer.IsAnswer` — the
  values that are parts of an answer, and answers
* `Answer.Alike` — two values whose differences do not matter

## Main results

* `Answer.Alike.isAnswer` — values that are alike are the same answer
-/

namespace PipelineLint.Answer

open Json

/-! ## Structures -/

/-- The values of the members of a name, in order. -/
def valuesOf (name : String) (ms : List (List Nat × Tree)) : List Tree :=
  (ms.filter (·.1 == utf16 name.toList)).map (·.2)

/-- The values at the first `n` places of a list; at a place behind its end there is none. -/
def places : Nat → List Tree → List (List Tree)
  | 0, _ => []
  | n + 1, vs => vs.take 1 :: places n (vs.drop 1)

/-- The value is a structure with fields of the given names, and `fields` holds the values that are
given for each. -/
inductive Stands (names : List String) : Tree → List (List Tree) → Prop
  | members {ms} (h : ∀ m ∈ ms, ∃ name : String, m.1 = utf16 name.toList) :
      Stands names (.object ms) (names.map (valuesOf · ms))
  | places {vs} (h : vs.length ≤ names.length) :
      Stands names (.list vs) (places names.length vs)

/-- What the values given for a field make of it: nothing, `null` or one value of a shape. -/
inductive Field {α : Type} (Shape : Tree → α → Prop) : List Tree → Option α → Prop
  | absent : Field Shape [] none
  | null : Field Shape [.null] none
  | given {v a} (h : Shape v a) : Field Shape [v] (some a)

/-! ## Answers -/

/-- The value stands for the messages under one severity. -/
inductive IsMessages : Tree → Messages → Prop
  | one {v text} (h : IsText v text) : IsMessages v (.one text)
  | many {vs texts} (h : List.Forall₂ IsText vs texts) : IsMessages (.list vs) (.many texts)

/-- The value is an entry: severities with their messages, in order. -/
inductive IsEntry : Tree → Entry → Prop
  | mk {ms entry} (h : List.Forall₂
      (fun m pair => m.1 = utf16 pair.1.toList ∧ IsMessages m.2 pair.2) ms entry) :
      IsEntry (.object ms) entry

/-- The value is a list of entries. -/
inductive IsErrors : Tree → List Entry → Prop
  | mk {vs entries} (h : List.Forall₂ IsEntry vs entries) : IsErrors (.list vs) entries

/-- The value is the interesting part of an answer. -/
inductive IsData : Tree → Answer → Prop
  | mk {v results errorss result errors} (h : Stands ["result", "errors"] v [results, errorss])
      (hresult : Field IsText results result) (herrors : Field IsErrors errorss errors) :
      IsData v ⟨result, errors.getD []⟩

/-- The value is an answer. -/
inductive IsAnswer : Tree → Answer → Prop
  | mk {v datas data} (h : Stands ["data"] v [datas]) (hdata : Field IsData datas data) :
      IsAnswer v (data.getD empty)

/-! ## Values that are alike -/

/-- The values given for a field make the same of it, when related values do. -/
inductive Field.Alike (R : Tree → Tree → Prop) : List Tree → List Tree → Prop
  | missing {vs vs'} (h : vs = [] ∨ vs = [.null]) (h' : vs' = [] ∨ vs' = [.null]) :
      Field.Alike R vs vs'
  | given {v v'} (h : R v v') : Field.Alike R [v] [v']

/-- The values are structures with the same `result` and the same `errors`. -/
def AlikeData (v v' : Tree) : Prop :=
  ∃ results errorss results' errorss', Stands ["result", "errors"] v [results, errorss] ∧
    Stands ["result", "errors"] v' [results', errorss'] ∧
    Field.Alike Eq results results' ∧ Field.Alike Eq errorss errorss'

/-- The values are structures whose `data` have the same fields. -/
def Alike (v v' : Tree) : Prop :=
  ∃ datas datas', Stands ["data"] v [datas] ∧ Stands ["data"] v' [datas'] ∧
    Field.Alike AlikeData datas datas'

theorem Stands.unique {names : List String} {v : Tree} {fields fields' : List (List Tree)}
    (h : Stands names v fields) (h' : Stands names v fields') : fields = fields' := by
  cases h with
  | members => cases h' with
    | members => rfl
  | places => cases h' with
    | places => rfl

theorem not_stands_null {names : List String} {fields : List (List Tree)} :
    ¬ Stands names .null fields := nofun

theorem Field.of_alike {α : Type} {Shape : Tree → α → Prop} {R : Tree → Tree → Prop}
    (hR : ∀ v v' a, R v v' → Shape v a → Shape v' a) (hnull : ∀ a, ¬ Shape .null a)
    (hnull' : ∀ {v'}, R .null v' → v' = .null) {vs vs' : List Tree} {a : Option α}
    (h : Field.Alike R vs vs') (hvs : Field Shape vs a) : Field Shape vs' a := by
  cases h with
  | missing h h' =>
    have hnone : a = none := by
      rcases h with rfl | rfl
      · cases hvs
        rfl
      · cases hvs with
        | null => rfl
        | given h => exact absurd h (hnull _)
    subst hnone
    rcases h' with rfl | rfl
    · exact .absent
    · exact .null
  | given h =>
    cases hvs with
    | null =>
      obtain rfl := hnull' h
      exact .null
    | given hv => exact .given (hR _ _ _ h hv)

theorem AlikeData.isData {v v' : Tree} {a : Answer} (h : AlikeData v v') (hv : IsData v a) :
    IsData v' a := by
  obtain ⟨results, errorss, results', errorss', hstands, hstands', hresults, herrorss⟩ := h
  obtain ⟨hstands'', hresult, herrors⟩ := hv
  have hfields := hstands.unique hstands''
  simp only [List.cons.injEq, and_true] at hfields
  obtain ⟨rfl, rfl⟩ := hfields
  refine .mk hstands' ?_ ?_
  · exact Field.of_alike (fun _ _ _ h hv => h ▸ hv) nofun (fun h => h.symm) hresults hresult
  · exact Field.of_alike (fun _ _ _ h hv => h ▸ hv) nofun (fun h => h.symm) herrorss herrors

/-- **Values that are alike are the same answer.** -/
theorem Alike.isAnswer {v v' : Tree} {a : Answer} (h : Alike v v') (hv : IsAnswer v a) :
    IsAnswer v' a := by
  obtain ⟨datas, datas', hstands, hstands', hdatas⟩ := h
  obtain ⟨hstands'', hdata⟩ := hv
  have hfields := hstands.unique hstands''
  simp only [List.cons.injEq, and_true] at hfields
  subst hfields
  have hnull (a : Answer) : ¬ IsData .null a := by
    rintro ⟨h, -, -⟩
    exact not_stands_null h
  have hnull' {v' : Tree} (h : AlikeData .null v') : v' = .null := by
    obtain ⟨_, _, _, _, hnone, _⟩ := h
    exact absurd hnone not_stands_null
  exact .mk hstands' (Field.of_alike (fun _ _ _ h hv => h.isData hv) hnull hnull' hdatas hdata)

theorem Field.alike_self {α : Type} {Shape : Tree → α → Prop} {R : Tree → Tree → Prop}
    (hR : ∀ v a, Shape v a → R v v) {vs : List Tree} {a : Option α} (h : Field Shape vs a) :
    Field.Alike R vs vs := by
  cases h with
  | absent => exact .missing (.inl rfl) (.inl rfl)
  | null => exact .missing (.inr rfl) (.inr rfl)
  | given h => exact .given (hR _ _ h)

theorem IsData.alike_self {v : Tree} {a : Answer} (h : IsData v a) : AlikeData v v := by
  obtain ⟨hstands, hresult, herrors⟩ := h
  exact ⟨_, _, _, _, hstands, hstands, hresult.alike_self fun _ _ _ => rfl,
    herrors.alike_self fun _ _ _ => rfl⟩

/-- An answer is like itself, so that it does not matter how its parts are written down. -/
theorem IsAnswer.alike_self {v : Tree} {a : Answer} (h : IsAnswer v a) : Alike v v := by
  obtain ⟨hstands, hdata⟩ := h
  exact ⟨_, _, hstands, hstands, hdata.alike_self fun _ _ => IsData.alike_self⟩

end PipelineLint.Answer
