import PipelineLint.Proofs.Answer.Shape
import PipelineLint.Proofs.Json.Reading
import PipelineLint.Proofs.Json.Unambiguity

/-!
# Which texts are answers

The readers of an answer, from the messages of a severity up to the whole, each take exactly the
spellings of the values of their shape.

## Main results

* `Answer.reads_readEntry`, `Answer.reads_readErrors`, `Answer.reads_readData`,
  `Answer.reads_read` — the readers of the parts of an answer, and of an answer
* `Answer.parse_eq_ok_iff`, `Answer.accepts_iff` — the texts that are answers
-/

namespace PipelineLint.Answer

open Json

/-! ## Messages -/

theorem strings?_eq_some_iff {vs : List Value} {texts : List String} :
    messagesOfValue?.strings? vs = some texts ↔ vs = texts.map .string := by
  induction vs generalizing texts with
  | nil => cases texts <;> simp [messagesOfValue?.strings?]
  | cons v vs ih =>
    cases v with
    | string s => cases texts <;> simp [messagesOfValue?.strings?, ih, and_comm]
    | _ => cases texts <;> simp [messagesOfValue?.strings?]

theorem map_ne_ok {β : Type} {r : Except Failure β} {f : β → Value × List Char} {v : Value}
    {rest : List Char} (hf : ∀ b, (f b).1 ≠ v) : r.map f ≠ .ok (v, rest) := by
  intro h
  obtain ⟨b, -, hb⟩ := map_eq_ok_iff.mp h
  exact hf b (by rw [hb])

/-- A value of any kind is a string exactly when it can be read as one. -/
theorem readValue_eq_string_iff {depth : Nat} {s rest : List Char} {text : String} :
    readValue depth s = .ok (.string text, rest) ↔ readText s = .ok (text, rest) := by
  rw [readText]
  constructor
  · intro h
    rw [readValue] at h
    generalize skipSpace s = u at h
    split at h
    · cases h
    · exact absurd h (map_ne_ok (by simp))
    · exact absurd h (map_ne_ok (by simp))
    · exact absurd h (map_ne_ok (by simp))
    · obtain ⟨⟨t, rest⟩, hread, hresult⟩ := map_eq_ok_iff.mp h
      cases hresult
      exact map_eq_ok_iff.mpr ⟨_, hread, rfl⟩
    · exact absurd h (map_ne_ok (by simp))
    · split at h
      · cases h
      · exact absurd h (map_ne_ok (by simp))
    · split at h
      · cases h
      · exact absurd h (map_ne_ok (by simp))
    · split at h
      · exact absurd h (map_ne_ok (by simp))
      · cases h
  · intro h
    split at h
    · cases h
    · next t hquote =>
      obtain ⟨⟨text, rest⟩, hread, hresult⟩ := map_eq_ok_iff.mp h
      cases hresult
      rw [readValue]
      simp [hquote, hread, Except.map]
    · cases h

theorem readValue_eq_list_iff {depth : Nat} {s rest : List Char} {vs : List Value} :
    readValue (depth + 1) s = .ok (.list vs, rest) ↔
      ∃ t, skipSpace s = '[' :: t ∧ readElements (readValue depth) t = .ok (vs, rest) := by
  constructor
  · intro h
    rw [readValue] at h
    split at h
    · cases h
    · exact absurd h (map_ne_ok (by simp))
    · exact absurd h (map_ne_ok (by simp))
    · exact absurd h (map_ne_ok (by simp))
    · exact absurd h (map_ne_ok (by simp))
    · exact absurd h (map_ne_ok (by simp))
    · next t hbracket =>
      obtain ⟨⟨vs, rest⟩, hread, hresult⟩ := map_eq_ok_iff.mp h
      cases hresult
      exact ⟨t, hbracket, hread⟩
    · exact absurd h (map_ne_ok (by simp))
    · split at h
      · exact absurd h (map_ne_ok (by simp))
      · cases h
  · rintro ⟨t, hbracket, hread⟩
    rw [readValue]
    simp [hbracket, hread, Except.map]

theorem readElementsUpTo_readValue {depth fuel : Nat} {first : Bool} {s rest : List Char}
    {texts : List String} :
    readElementsUpTo (readValue depth) fuel first s = .ok (texts.map .string, rest) ↔
      readElementsUpTo readText fuel first s = .ok (texts, rest) := by
  induction fuel generalizing first s texts with
  | zero => simp [readElementsUpTo]
  | succ fuel ih =>
    rw [readElementsUpTo, readElementsUpTo]
    cases nextElement first s with
    | error f => simp
    | ok step =>
      cases step with
      | done u => cases texts <;> simp
      | more u =>
        dsimp only
        constructor
        · intro h
          split at h
          · cases h
          · next v r hvalue =>
            split at h
            · next vs rest hmore =>
              cases texts with
              | nil => cases h
              | cons text texts =>
                simp only [List.map_cons, Except.ok.injEq, Prod.mk.injEq, List.cons.injEq] at h
                obtain ⟨⟨rfl, rfl⟩, rfl⟩ := h
                simp only [readValue_eq_string_iff.mp hvalue, ih.mp hmore]
            · cases h
        · intro h
          split at h
          · cases h
          · next text r htext =>
            split at h
            · next texts rest hmore =>
              cases h
              simp only [readValue_eq_string_iff.mpr htext, ih.mpr hmore, List.map_cons]
            · cases h

theorem messagesOfValue?_eq_some_iff {v : Value} {messages : Messages} :
    messagesOfValue? v = some messages ↔
      (∃ text, v = .string text ∧ messages = .one text) ∨
        ∃ texts, v = .list (texts.map .string) ∧ messages = .many texts := by
  cases v with
  | string s => simp [messagesOfValue?, eq_comm]
  | list vs =>
    simp only [messagesOfValue?, Option.map_eq_some_iff, strings?_eq_some_iff]
    grind
  | _ => simp [messagesOfValue?]

theorem isMessages_of_readValue {s rest : List Char} {v : Value} {messages : Messages}
    (h : readValue messageDepth s = .ok (v, rest)) (hv : messagesOfValue? v = some messages) :
    ∃ s₁ t, Blank s s₁ ∧ Spells s₁ t rest ∧ IsMessages t messages := by
  rcases messagesOfValue?_eq_some_iff.mp hv with ⟨text, rfl, rfl⟩ | ⟨texts, rfl, rfl⟩
  · obtain ⟨s₁, t, hblank, ht, htext⟩ := reads_readText.sound (readValue_eq_string_iff.mp h)
    exact ⟨s₁, t, hblank, ht, .one htext⟩
  · obtain ⟨t, hbracket, hread⟩ := readValue_eq_list_iff.mp h
    obtain ⟨vs, ⟨t₁, hblank, hvs⟩, htexts⟩ :=
      reads_readText.exists_follows (readElementsUpTo_readValue.mp hread)
    exact ⟨_, _, blank_of_skipSpace hbracket, .list hblank hvs, .many htexts⟩

theorem readValue_of_isMessages {s s₁ rest : List Char} {t : Tree} {messages : Messages}
    (hblank : Blank s s₁) (ht : Spells s₁ t rest) (hmessages : IsMessages t messages)
    (hclosed : Closed rest) :
    ∃ v, readValue messageDepth s = .ok (v, rest) ∧ messagesOfValue? v = some messages := by
  cases hmessages with
  | one htext =>
    have hread := reads_readText.complete hblank ht htext hclosed
    exact ⟨_, readValue_eq_string_iff.mpr hread,
      messagesOfValue?_eq_some_iff.mpr (.inl ⟨_, rfl, rfl⟩)⟩
  | many htexts =>
    cases ht with
    | list hblank' hvs =>
      have hread := reads_readText.readElements hblank' hvs htexts
      refine ⟨_, readValue_eq_list_iff.mpr ⟨_, hblank.skipSpace_eq_cons (by decide), ?_⟩,
        messagesOfValue?_eq_some_iff.mpr (.inr ⟨_, rfl, rfl⟩)⟩
      exact readElementsUpTo_readValue.mpr hread

/-! ## Entries -/

/-- What a member of an entry adds to the entry. -/
def AddsMessages (known : Entry) (severity : String) (v : Tree) (known' : Entry) : Prop :=
  ∃ messages, IsMessages v messages ∧ known' = known ++ [(severity, messages)]

theorem readsMember_addMessages : ReadsMember addMessages AddsMessages where
  sound {known known' severity s rest} h := by
    rw [addMessages] at h
    split at h
    · cases h
    · next t hcolon =>
      split at h
      · cases h
      · next v r hvalue =>
        split at h
        · next messages hmessages =>
          cases h
          obtain ⟨u, tree, hblank, htree, hshape⟩ := isMessages_of_readValue hvalue hmessages
          exact ⟨t, u, tree, takeColon_eq_ok_iff.mp hcolon, hblank, htree, messages, hshape, rfl⟩
        · cases h
  complete {known known' severity s t u v rest} hcolon hblank hv hstep hclosed := by
    obtain ⟨messages, hshape, rfl⟩ := hstep
    obtain ⟨value, hvalue, hmessages⟩ := readValue_of_isMessages hblank hv hshape hclosed
    rw [addMessages]
    simp only [takeColon_eq_ok_iff.mpr hcolon, hvalue, hmessages]

theorem chain_addsMessages_iff {known known' : Entry} {ms : List (List Nat × Tree)} :
    Chain AddsMessages known ms known' ↔
      ∃ entry, IsEntry (.object ms) entry ∧ known' = known ++ entry := by
  constructor
  · intro h
    induction h with
    | nil => exact ⟨[], .mk .nil, (List.append_nil _).symm⟩
    | cons hstep _ ih =>
      obtain ⟨messages, hshape, rfl⟩ := hstep
      obtain ⟨entry, ⟨hentry⟩, rfl⟩ := ih
      exact ⟨_ :: entry, .mk (.cons ⟨rfl, hshape⟩ hentry), by rw [List.append_assoc]; rfl⟩
  · rintro ⟨entry, ⟨hentry⟩, rfl⟩
    induction hentry generalizing known with
    | nil =>
      rw [List.append_nil]
      exact .nil
    | @cons m pair ms entry hpair _ ih =>
      obtain ⟨us, v⟩ := m
      obtain ⟨severity, messages⟩ := pair
      obtain ⟨hname, hshape⟩ := hpair
      cases hname
      rw [List.append_cons known (severity, messages) entry]
      exact .cons ⟨messages, hshape, rfl⟩ ih

theorem reads_readEntry : Reads readEntry IsEntry where
  sound {s entry rest} h := by
    rw [readEntry] at h
    split at h
    · cases h
    · next t hbrace =>
      obtain ⟨ms, ⟨t₁, hblank, hms⟩, hchain⟩ := readsMember_addMessages.exists_follows h
      obtain ⟨entry', hentry, rfl⟩ := chain_addsMessages_iff.mp hchain
      exact ⟨_, _, blank_of_skipSpace hbrace, .object hblank hms, hentry⟩
    · cases h
  complete {s s₁ v entry rest} hblank hv hshape _ := by
    have hentry := hshape
    cases hentry with
    | mk _ =>
      cases hv with
      | object hblank' hms =>
        rw [readEntry]
        simp only [hblank.skipSpace_eq_cons (by decide)]
        exact readsMember_addMessages.readMembers hblank' hms
          (chain_addsMessages_iff.mpr ⟨entry, hshape, rfl⟩)

theorem reads_readErrors : Reads readErrors IsErrors where
  sound {s errors rest} h := by
    rw [readErrors] at h
    split at h
    · cases h
    · next t hbracket =>
      obtain ⟨vs, ⟨t₁, hblank, hvs⟩, herrors⟩ := reads_readEntry.exists_follows h
      exact ⟨_, _, blank_of_skipSpace hbracket, .list hblank hvs, .mk herrors⟩
    · cases h
  complete {s s₁ v errors rest} hblank hv hshape _ := by
    obtain ⟨herrors⟩ := hshape
    cases hv with
    | list hblank' hvs =>
      rw [readErrors]
      simp only [hblank.skipSpace_eq_cons (by decide)]
      exact reads_readEntry.readElements hblank' hvs herrors

/-! ## Structures spelled as objects -/

section

variable {α σ : Type} {Shape : Tree → α → Prop}

/-- What the values given for a field make of what is known of it. A field may be given once. -/
inductive Once (Shape : Tree → α → Prop) :
    Option (Option α) → List Tree → Option (Option α) → Prop
  | keep {known} : Once Shape known [] known
  | set {v a} (h : OrNull Shape v a) : Once Shape none [v] (some a)

@[simp] theorem once_nil_iff {known known' : Option (Option α)} :
    Once Shape known [] known' ↔ known' = known := by
  constructor
  · rintro ⟨⟩
    rfl
  · rintro rfl
    exact .keep

theorem once_append_iff {known known' : Option (Option α)} {vs ws : List Tree} :
    Once Shape known (vs ++ ws) known' ↔
      ∃ known₁, Once Shape known vs known₁ ∧ Once Shape known₁ ws known' := by
  constructor
  · intro h
    cases vs with
    | nil => exact ⟨known, .keep, h⟩
    | cons v vs =>
      rw [List.cons_append] at h
      generalize hus : v :: (vs ++ ws) = us at h
      cases h with
      | keep => cases hus
      | set h =>
        obtain ⟨rfl, hnil⟩ := List.cons.inj hus
        obtain ⟨rfl, rfl⟩ := List.append_eq_nil_iff.mp hnil
        exact ⟨_, .set h, .keep⟩
  · rintro ⟨known₁, hvs, hws⟩
    cases hvs with
    | keep => exact hws
    | set h =>
      cases hws with
      | keep => exact .set h

theorem field_iff_once {vs : List Tree} {a : Option α} :
    Field Shape vs a ↔ ∃ known, Once Shape none vs known ∧ known.join = a := by
  constructor
  · intro h
    cases h with
    | absent => exact ⟨none, .keep, rfl⟩
    | null => exact ⟨some none, .set .null, rfl⟩
    | given h => exact ⟨some (some _), .set (.some h), rfl⟩
  · rintro ⟨known, h, rfl⟩
    cases h with
    | keep => exact .absent
    | set h =>
      cases h with
      | null => exact .null
      | some h => exact .given h

/-- What a member gives for the field `name`: its value, if it has that name. -/
def given (name other : String) (v : Tree) : List Tree := if other = name then [v] else []

theorem valuesOf_nil (name : String) : valuesOf name [] = [] := rfl

theorem valuesOf_cons (name other : String) (v : Tree) (ms : List (List Nat × Tree)) :
    valuesOf name ((utf16 other.toList, v) :: ms) = given name other v ++ valuesOf name ms := by
  unfold valuesOf given
  by_cases h : other = name
  · simp [h]
  · have hne : utf16 other.toList ≠ utf16 name.toList := fun heq =>
      h (String.toList_inj.mp (utf16_injective heq))
    simp [h, hne]

theorem exists_of_readOnce {value : Reader α} (h : Reads value Shape)
    (hnull : ∀ a, ¬ Shape .null a) {name : String} {known known' : Option (Option α)}
    {s rest : List Char} (hs : readOnce name known value s = .ok (known', rest)) :
    ∃ t u v, Blank s (':' :: t) ∧ Blank t u ∧ Spells u v rest ∧ Once Shape known [v] known' := by
  unfold readOnce at hs
  split at hs
  · cases hs
  · split at hs
    · cases hs
    · next t hcolon =>
      obtain ⟨⟨a, rest⟩, hread, hresult⟩ := map_eq_ok_iff.mp hs
      cases hresult
      obtain ⟨u, v, hblank, hv, hshape⟩ := (h.nullable hnull).sound hread
      exact ⟨t, u, v, takeColon_eq_ok_iff.mp hcolon, hblank, hv, .set hshape⟩

theorem readOnce_of_once {value : Reader α} (h : Reads value Shape) (hnull : ∀ a, ¬ Shape .null a)
    {name : String} {known known' : Option (Option α)} {s t u rest : List Char} {v : Tree}
    (hcolon : Blank s (':' :: t)) (hblank : Blank t u) (hv : Spells u v rest)
    (hclosed : Closed rest) (honce : Once Shape known [v] known') :
    readOnce name known value s = .ok (known', rest) := by
  cases honce with
  | set hshape =>
    rw [readOnce]
    simp [takeColon_eq_ok_iff.mpr hcolon, (h.nullable hnull).complete hblank hv hshape hclosed,
      Except.map]

theorem exists_of_skipMember {known known' : σ} {s rest : List Char}
    (hs : skipMember known s = .ok (known', rest)) :
    known' = known ∧ ∃ t u v, Blank s (':' :: t) ∧ Blank t u ∧ Spells u v rest := by
  rw [skipMember] at hs
  split at hs
  · cases hs
  · next t hcolon =>
    obtain ⟨rest, hskip, hresult⟩ := map_eq_ok_iff.mp hs
    cases hresult
    obtain ⟨u, v, hblank, hv⟩ := exists_spells_of_skipValue hskip
    exact ⟨rfl, t, u, v, takeColon_eq_ok_iff.mp hcolon, hblank, hv⟩

theorem skipMember_of_spells {known : σ} {s t u rest : List Char} {v : Tree}
    (hcolon : Blank s (':' :: t)) (hblank : Blank t u) (hv : Spells u v rest)
    (hclosed : Closed rest) : skipMember known s = .ok (known, rest) := by
  rw [skipMember]
  simp [takeColon_eq_ok_iff.mpr hcolon, hv.skipValue hblank hclosed, Except.map]

end

/-- What a member of `data` makes of what is known of `data`. -/
def TellsData (known : DataMembers) (name : String) (v : Tree) (known' : DataMembers) : Prop :=
  Once IsText known.result (given "result" name v) known'.result ∧
    Once IsErrors known.errors (given "errors" name v) known'.errors

theorem not_isText_null (text : String) : ¬ IsText .null text := nofun

theorem not_isErrors_null (errors : List Entry) : ¬ IsErrors .null errors := nofun

theorem readsMember_dataMember : ReadsMember dataMember TellsData where
  sound {known known' name s rest} h := by
    rw [dataMember] at h
    split at h
    · next hname =>
      obtain ⟨⟨r, rest⟩, hread, hresult⟩ := map_eq_ok_iff.mp h
      cases hresult
      obtain ⟨t, u, v, hcolon, hblank, hv, honce⟩ :=
        exists_of_readOnce reads_readText not_isText_null hread
      exact ⟨t, u, v, hcolon, hblank, hv, by simpa [TellsData, given, hname] using honce⟩
    · next hname =>
      split at h
      · next hname' =>
        obtain ⟨⟨r, rest⟩, hread, hresult⟩ := map_eq_ok_iff.mp h
        cases hresult
        obtain ⟨t, u, v, hcolon, hblank, hv, honce⟩ :=
          exists_of_readOnce reads_readErrors not_isErrors_null hread
        exact ⟨t, u, v, hcolon, hblank, hv, by simpa [TellsData, given, hname'] using honce⟩
      · next hname' =>
        obtain ⟨rfl, t, u, v, hcolon, hblank, hv⟩ := exists_of_skipMember h
        exact ⟨t, u, v, hcolon, hblank, hv, by simp [TellsData, given, hname, hname']⟩
  complete {known known' name s t u v rest} hcolon hblank hv hstep hclosed := by
    obtain ⟨hresult, herrors⟩ := hstep
    rw [dataMember]
    split
    · next hname =>
      simp only [given, hname, if_true] at hresult
      have herrors : known'.errors = known.errors := by simpa [given, hname] using herrors
      refine map_eq_ok_iff.mpr ⟨_, readOnce_of_once reads_readText not_isText_null hcolon hblank hv
        hclosed hresult, ?_⟩
      rw [← herrors]
    · next hname =>
      have hresult : known'.result = known.result := by simpa [given, hname] using hresult
      split
      · next hname' =>
        simp only [given, hname', if_true] at herrors
        refine map_eq_ok_iff.mpr ⟨_, readOnce_of_once reads_readErrors not_isErrors_null hcolon
          hblank hv hclosed herrors, ?_⟩
        rw [← hresult]
      · next hname' =>
        have herrors : known'.errors = known.errors := by simpa [given, hname'] using herrors
        obtain rfl : known' = known := by
          obtain ⟨r, e⟩ := known
          obtain ⟨r', e'⟩ := known'
          cases hresult
          cases herrors
          rfl
        exact skipMember_of_spells hcolon hblank hv hclosed

theorem chain_tellsData_iff {known known' : DataMembers} {ms : List (List Nat × Tree)} :
    Chain TellsData known ms known' ↔ (∀ m ∈ ms, ∃ name : String, m.1 = utf16 name.toList) ∧
      Once IsText known.result (valuesOf "result" ms) known'.result ∧
      Once IsErrors known.errors (valuesOf "errors" ms) known'.errors := by
  refine chain_iff (W := fun (known : DataMembers) ms known' =>
    Once IsText known.result (valuesOf "result" ms) known'.result ∧
      Once IsErrors known.errors (valuesOf "errors" ms) known'.errors)
    (fun known known' => ?_) fun known name v ms known' => ?_
  · obtain ⟨r, e⟩ := known
    obtain ⟨r', e'⟩ := known'
    simp only [valuesOf_nil, once_nil_iff, DataMembers.mk.injEq]
  · simp only [valuesOf_cons, once_append_iff, TellsData]
    constructor
    · rintro ⟨⟨r, hresult, hresults⟩, e, herrors, herrorss⟩
      exact ⟨⟨r, e⟩, ⟨hresult, herrors⟩, hresults, herrorss⟩
    · rintro ⟨known₁, ⟨hresult, herrors⟩, hresults, herrorss⟩
      exact ⟨⟨_, hresult, hresults⟩, _, herrors, herrorss⟩

/-! ## Structures spelled as lists -/

theorem closeList_eq_ok_iff {s rest : List Char} :
    closeList s = .ok rest ↔ Blank s (']' :: rest) := by
  rw [closeList]
  constructor
  · intro h
    split at h
    · cases h
    · next t hclose =>
      cases h
      exact blank_of_skipSpace hclose
    · split at h
      · cases h
      · cases h
    · cases h
  · intro h
    simp only [h.skipSpace_eq_cons (by decide)]

section

variable {α : Type} {value : Reader α} {Shape : Tree → α → Prop}

/-- Nothing but the end follows where a list ends. -/
theorem eq_of_more_close {t rest : List Char} {vs : List Tree}
    (h : More ']' Spells (']' :: t) vs rest) : vs = [] ∧ t = rest := by
  have hbracket : skipSpace (']' :: t) = ']' :: t := Blank.none.skipSpace_eq_cons (by decide)
  cases h with
  | close hs =>
    have hrest := hbracket.symm.trans (hs.skipSpace_eq_cons (by decide))
    exact ⟨rfl, (List.cons.inj hrest).2⟩
  | item hs =>
    have hrest := hbracket.symm.trans (hs.skipSpace_eq_cons (by decide))
    exact absurd (List.cons.inj hrest).1 (by decide)

/-- Reading the value at a place: what follows it is what follows the places behind it. -/
theorem exists_of_readPlace (h : Reads value Shape) (hnull : ∀ a, ¬ Shape .null a) {first : Bool}
    {s t rest : List Char} {a : Option α} {vs : List Tree}
    (hs : readPlace first value s = .ok (a, t)) (hvs : Follows ']' Spells false t vs rest) :
    ∃ vs', Follows ']' Spells first s vs' rest ∧ Field Shape (vs'.take 1) a ∧ vs'.drop 1 = vs := by
  rw [readPlace] at hs
  split at hs
  · cases hs
  · next u hdone =>
    cases hs
    obtain ⟨rest', rfl, hblank⟩ := blank_of_nextElement hdone
    obtain ⟨rfl, rfl⟩ := eq_of_more_close hvs
    exact ⟨[], hblank.follows first, .absent, rfl⟩
  · next u hmore =>
    obtain ⟨u₁, v, hblank, hv, hshape⟩ := (h.nullable hnull).sound hs
    refine ⟨v :: vs, follows_of_nextElement hmore hblank hv hvs, ?_, rfl⟩
    cases hshape with
    | null => exact .null
    | some h => exact .given h

theorem readPlace_of_field (h : Reads value Shape) (hnull : ∀ a, ¬ Shape .null a) {first : Bool}
    {s rest : List Char} {a : Option α} {vs : List Tree} (hvs : Follows ']' Spells first s vs rest)
    (hfield : Field Shape (vs.take 1) a) :
    ∃ t, readPlace first value s = .ok (a, t) ∧ Follows ']' Spells false t (vs.drop 1) rest := by
  cases vs with
  | nil =>
    cases hfield with
    | absent =>
      refine ⟨']' :: rest, ?_, .close .none⟩
      rw [readPlace]
      simp only [nextElement_of_blank hvs.blank]
  | cons v vs =>
    obtain ⟨u, u₁, hnext, hv, hmore, -⟩ := hvs.nextElement
    have hshape : OrNull Shape v a := by
      cases hfield with
      | null => exact .null
      | given h => exact .some h
    refine ⟨u₁, ?_, hmore⟩
    rw [readPlace]
    simp only [hnext, (h.nullable hnull).complete .none hv hshape (hmore.closed closed_bracket)]

end

/-! ## Structures -/

/-- Readers of the two spellings of a structure make a reader of the structure. -/
theorem reads_readStructure {α : Type} {name : String} {values members : Reader α}
    {P : List Tree → α → Prop} {Q : List (List Nat × Tree) → α → Prop} {Shape : Tree → α → Prop}
    (hshape : ∀ v a, Shape v a ↔ (∃ vs, v = .list vs ∧ P vs a) ∨ ∃ ms, v = .object ms ∧ Q ms a)
    (hvalues : ∀ s a t rest, values s = .ok (a, t) → Blank t (']' :: rest) →
      ∃ vs, Follows ']' Spells true s vs rest ∧ P vs a)
    (hvalues' : ∀ s vs a rest, Follows ']' Spells true s vs rest → P vs a →
      ∃ t, values s = .ok (a, t) ∧ Blank t (']' :: rest))
    (hmembers : ∀ s a rest, members s = .ok (a, rest) →
      ∃ ms, Follows '\x7d' (Member Spells) true s ms rest ∧ Q ms a)
    (hmembers' : ∀ s ms a rest, Follows '\x7d' (Member Spells) true s ms rest → Q ms a →
      members s = .ok (a, rest)) :
    Reads (readStructure name values members) Shape where
  sound {s a rest} h := by
    rw [readStructure] at h
    split at h
    · cases h
    · next t hbracket =>
      split at h
      · cases h
      · next a t' hread =>
        obtain ⟨rest, hclose, hresult⟩ := map_eq_ok_iff.mp h
        cases hresult
        obtain ⟨vs, ⟨u, hblank, hvs⟩, hP⟩ := hvalues _ _ _ _ hread (closeList_eq_ok_iff.mp hclose)
        exact ⟨_, _, blank_of_skipSpace hbracket, .list hblank hvs,
          (hshape _ _).mpr (.inl ⟨vs, rfl, hP⟩)⟩
    · next t hbrace =>
      obtain ⟨ms, ⟨u, hblank, hms⟩, hQ⟩ := hmembers _ _ _ h
      exact ⟨_, _, blank_of_skipSpace hbrace, .object hblank hms,
        (hshape _ _).mpr (.inr ⟨ms, rfl, hQ⟩)⟩
    · cases h
  complete {s s₁ v a rest} hblank hv hva _ := by
    rw [readStructure]
    rcases (hshape v a).mp hva with ⟨vs, rfl, hP⟩ | ⟨ms, rfl, hQ⟩
    · cases hv with
      | list hblank' hvs =>
        obtain ⟨t, hread, hclose⟩ := hvalues' _ _ _ _ ⟨_, hblank', hvs⟩ hP
        simp [hblank.skipSpace_eq_cons (by decide), hread, closeList_eq_ok_iff.mpr hclose,
          Except.map]
    · cases hv with
      | object hblank' hms =>
        simp [hblank.skipSpace_eq_cons (by decide), hmembers' _ _ _ _ ⟨_, hblank', hms⟩ hQ]

/-- What the values of a list say as `data`. -/
def DataValues (vs : List Tree) (a : Answer) : Prop :=
  vs.length ≤ 2 ∧ ∃ errors, Field IsText (vs.take 1) a.result ∧
    Field IsErrors ((vs.drop 1).take 1) errors ∧ a.errors = errors.getD []

/-- What the members of an object say as `data`. -/
def DataMembersSay (ms : List (List Nat × Tree)) (a : Answer) : Prop :=
  (∀ m ∈ ms, ∃ name : String, m.1 = utf16 name.toList) ∧
    ∃ errors, Field IsText (valuesOf "result" ms) a.result ∧
      Field IsErrors (valuesOf "errors" ms) errors ∧ a.errors = errors.getD []

theorem isData_iff {v : Tree} {a : Answer} :
    IsData v a ↔ (∃ vs, v = .list vs ∧ DataValues vs a) ∨
      ∃ ms, v = .object ms ∧ DataMembersSay ms a := by
  constructor
  · rintro ⟨h, hresult, herrors⟩
    cases h with
    | members h => exact .inr ⟨_, rfl, h, _, hresult, herrors, rfl⟩
    | places h => exact .inl ⟨_, rfl, h, _, hresult, herrors, rfl⟩
  · obtain ⟨result, errorss⟩ := a
    rintro (⟨vs, rfl, h, errors, hresult, herrors, rfl⟩ |
      ⟨ms, rfl, h, errors, hresult, herrors, rfl⟩)
    · exact .mk (.places h) hresult herrors
    · exact .mk (.members h) hresult herrors

theorem reads_readData : Reads readData IsData := by
  refine reads_readStructure (fun _ _ => isData_iff) ?_ ?_ ?_ ?_
  · intro s a t rest hread hclose
    rw [dataValues] at hread
    split at hread
    · cases hread
    · next result u hresult =>
      obtain ⟨⟨errors, t⟩, herrors, h⟩ := map_eq_ok_iff.mp hread
      cases h
      obtain ⟨errorss, hsecond, hfield, hnone⟩ :=
        exists_of_readPlace reads_readErrors not_isErrors_null herrors (hclose.follows false)
      obtain ⟨vs, hfirst, hfield', rfl⟩ :=
        exists_of_readPlace reads_readText not_isText_null hresult hsecond
      refine ⟨vs, hfirst, ?_, errors, hfield', hfield, rfl⟩
      rw [List.drop_drop, List.drop_eq_nil_iff] at hnone
      exact hnone
  · rintro s vs ⟨result, _⟩ rest hfirst ⟨hlength, errors, hresult, herrors, rfl⟩
    obtain ⟨u, hread, hsecond⟩ :=
      readPlace_of_field reads_readText not_isText_null hfirst hresult
    obtain ⟨t, hread', hclose⟩ :=
      readPlace_of_field reads_readErrors not_isErrors_null hsecond herrors
    have hnone : (vs.drop 1).drop 1 = [] := by
      rw [List.drop_drop, List.drop_eq_nil_iff]
      exact hlength
    rw [hnone] at hclose
    refine ⟨t, ?_, hclose.blank⟩
    rw [dataValues]
    rw [hread]
    exact map_eq_ok_iff.mpr ⟨_, hread', rfl⟩
  · intro s a rest hread
    obtain ⟨⟨known, rest⟩, hread, h⟩ := map_eq_ok_iff.mp hread
    cases h
    obtain ⟨ms, hfollows, hchain⟩ := readsMember_dataMember.exists_follows hread
    obtain ⟨hnames, hresult, herrors⟩ := chain_tellsData_iff.mp hchain
    exact ⟨ms, hfollows, hnames, _, field_iff_once.mpr ⟨_, hresult, rfl⟩,
      field_iff_once.mpr ⟨_, herrors, rfl⟩, rfl⟩
  · rintro s ms ⟨result, _⟩ rest ⟨u, hblank, hms⟩ ⟨hnames, errors, hresult, herrors, rfl⟩
    obtain ⟨known, honce, rfl⟩ := field_iff_once.mp hresult
    obtain ⟨known', honce', rfl⟩ := field_iff_once.mp herrors
    have hchain : Chain TellsData {} ms ⟨known, known'⟩ :=
      chain_tellsData_iff.mpr ⟨hnames, honce, honce'⟩
    exact map_eq_ok_iff.mpr ⟨_, readsMember_dataMember.readMembers hblank hms hchain, rfl⟩

/-! ## The whole answer -/

theorem not_isData_null (a : Answer) : ¬ IsData .null a := by
  rintro ⟨h, -, -⟩
  cases h

/-- What a member of an answer makes of what is known of `data`. -/
def TellsAnswer (known : Option (Option Answer)) (name : String) (v : Tree)
    (known' : Option (Option Answer)) : Prop :=
  Once IsData known (given "data" name v) known'

theorem readsMember_answerMember : ReadsMember answerMember TellsAnswer where
  sound {known known' name s rest} h := by
    rw [answerMember] at h
    split at h
    · next hname =>
      obtain ⟨t, u, v, hcolon, hblank, hv, honce⟩ :=
        exists_of_readOnce reads_readData not_isData_null h
      exact ⟨t, u, v, hcolon, hblank, hv, by simpa [TellsAnswer, given, hname] using honce⟩
    · next hname =>
      obtain ⟨rfl, t, u, v, hcolon, hblank, hv⟩ := exists_of_skipMember h
      exact ⟨t, u, v, hcolon, hblank, hv, by simp [TellsAnswer, given, hname]⟩
  complete {known known' name s t u v rest} hcolon hblank hv hstep hclosed := by
    rw [TellsAnswer, given] at hstep
    rw [answerMember]
    split
    · next hname =>
      rw [if_pos hname] at hstep
      exact readOnce_of_once reads_readData not_isData_null hcolon hblank hv hclosed hstep
    · next hname =>
      rw [if_neg hname, once_nil_iff] at hstep
      rw [hstep]
      exact skipMember_of_spells hcolon hblank hv hclosed

theorem chain_tellsAnswer_iff {known known' : Option (Option Answer)}
    {ms : List (List Nat × Tree)} :
    Chain TellsAnswer known ms known' ↔ (∀ m ∈ ms, ∃ name : String, m.1 = utf16 name.toList) ∧
      Once IsData known (valuesOf "data" ms) known' := by
  refine chain_iff (W := fun known ms known' => Once IsData known (valuesOf "data" ms) known')
    (fun known known' => ?_) fun known name v ms known' => ?_
  · rw [valuesOf_nil, once_nil_iff]
  · rw [valuesOf_cons, once_append_iff]
    rfl

/-- What the values of a list say as an answer. -/
def AnswerValues (vs : List Tree) (a : Answer) : Prop :=
  vs.length ≤ 1 ∧ ∃ data, Field IsData (vs.take 1) data ∧ a = data.getD empty

/-- What the members of an object say as an answer. -/
def AnswerMembersSay (ms : List (List Nat × Tree)) (a : Answer) : Prop :=
  (∀ m ∈ ms, ∃ name : String, m.1 = utf16 name.toList) ∧
    ∃ data, Field IsData (valuesOf "data" ms) data ∧ a = data.getD empty

theorem isAnswer_iff {v : Tree} {a : Answer} :
    IsAnswer v a ↔ (∃ vs, v = .list vs ∧ AnswerValues vs a) ∨
      ∃ ms, v = .object ms ∧ AnswerMembersSay ms a := by
  constructor
  · rintro ⟨h, hdata⟩
    cases h with
    | members h => exact .inr ⟨_, rfl, h, _, hdata, rfl⟩
    | places h => exact .inl ⟨_, rfl, h, _, hdata, rfl⟩
  · rintro (⟨vs, rfl, h, data, hdata, rfl⟩ | ⟨ms, rfl, h, data, hdata, rfl⟩)
    · exact .mk (.places h) hdata
    · exact .mk (.members h) hdata

theorem reads_read : Reads read IsAnswer := by
  refine reads_readStructure (fun _ _ => isAnswer_iff) ?_ ?_ ?_ ?_
  · intro s a t rest hread hclose
    obtain ⟨⟨data, t⟩, hread, h⟩ := map_eq_ok_iff.mp hread
    cases h
    obtain ⟨vs, hfollows, hfield, hnone⟩ :=
      exists_of_readPlace reads_readData not_isData_null hread (hclose.follows false)
    exact ⟨vs, hfollows, List.drop_eq_nil_iff.mp hnone, data, hfield, rfl⟩
  · rintro s vs a rest hfollows ⟨hlength, data, hfield, rfl⟩
    obtain ⟨t, hread, hfollows⟩ :=
      readPlace_of_field reads_readData not_isData_null hfollows hfield
    rw [List.drop_eq_nil_iff.mpr hlength] at hfollows
    exact ⟨t, map_eq_ok_iff.mpr ⟨_, hread, rfl⟩, hfollows.blank⟩
  · intro s a rest hread
    obtain ⟨⟨known, rest⟩, hread, h⟩ := map_eq_ok_iff.mp hread
    cases h
    obtain ⟨ms, hfollows, hchain⟩ := readsMember_answerMember.exists_follows hread
    obtain ⟨hnames, hdata⟩ := chain_tellsAnswer_iff.mp hchain
    exact ⟨ms, hfollows, hnames, _, field_iff_once.mpr ⟨_, hdata, rfl⟩, rfl⟩
  · rintro s ms a rest ⟨u, hblank, hms⟩ ⟨hnames, data, hdata, rfl⟩
    obtain ⟨known, honce, rfl⟩ := field_iff_once.mp hdata
    have hchain := chain_tellsAnswer_iff.mpr ⟨hnames, honce⟩
    exact map_eq_ok_iff.mpr ⟨_, readsMember_answerMember.readMembers hblank hms hchain, rfl⟩

/-- **A text is an answer** exactly when it is the spelling of a value that is one. -/
theorem parse_eq_ok_iff {body : String} {a : Answer} :
    parse body = .ok a ↔ ∃ v, Document body.toList v ∧ IsAnswer v a := by
  have hspace : skipSpace [] = [] := rfl
  rw [parse]
  constructor
  · intro h
    split at h
    · cases h
    · next answer s hread =>
      split at h
      · next hend =>
        cases h
        obtain ⟨s₁, v, hblank, hv, hanswer⟩ := reads_read.sound hread
        exact ⟨v, ⟨s₁, s, hblank, hv, blank_of_skipSpace hend⟩, hanswer⟩
      · cases h
  · rintro ⟨v, ⟨s, rest, hblank, hv, hend⟩, hanswer⟩
    have hread := reads_read.complete hblank hv hanswer (hend.closed trivial)
    simp only [hread, hend.skipSpace_eq, hspace]

/-- **The texts that are accepted**, and the answers that they give. A text is accepted exactly when
it is one value between white space that has the shape of an answer, and it gives the answer that
the value is. So it gives the same answer as every text whose value differs from its own only where
that does not matter. -/
theorem accepts_iff (body : String) :
    (∀ a, parse body = .ok a ↔ ∃ v, Document body.toList v ∧ IsAnswer v a) ∧
      ∀ body' : String, ∀ v v', Document body.toList v → Document body'.toList v' → Alike v v' →
        ∀ a, parse body = .ok a → parse body' = .ok a := by
  refine ⟨fun a => parse_eq_ok_iff, fun body' v v' hv hv' halike a ha => ?_⟩
  obtain ⟨w, hw, hanswer⟩ := parse_eq_ok_iff.mp ha
  obtain rfl := hw.unique hv
  exact parse_eq_ok_iff.mpr ⟨v', hv', halike.isAnswer hanswer⟩

end PipelineLint.Answer
