import PipelineLint.Proofs.Json.Unambiguity

/-!
# Text behind a value

A spelling says what is left of the text behind a value, and it does not matter how much that is:
whatever is appended to the text is appended to what is left, and the value stays the same.

## Which values end by themselves

A number does not: `1` is a document, and so is `12`. A list and an object do, because their last
bracket closes the first one. So of two documents, one of which begins with the other, the longer
one goes on with white space alone as soon as the shorter one is a list or an object.

## Main definitions

* `Json.Tree.IsEnclosed` — a list or an object
* `Json.IsTruncated` — a text that is cut before its last character that is no white space

## Main results

* `Json.Spells.append` — a spelling, with more text behind it
* `Json.Document.not_isTruncated` — a list or an object is no truncated document
-/

namespace PipelineLint.Json

/-! ## Appending text -/

theorem Blank.append {s rest : List Char} (h : Blank s rest) (e : List Char) :
    Blank (s ++ e) (rest ++ e) := by
  induction h with
  | none => exact .none
  | more hc _ ih => exact .more hc ih

theorem Body.append {s rest : List Char} {us : List Nat} (h : Body s us rest) (e : List Char) :
    Body (s ++ e) us (rest ++ e) := by
  induction h with
  | close => exact .close
  | plain hquote hescape hcontrol _ ih => exact .plain hquote hescape hcontrol ih
  | short he _ ih => exact .short he ih
  | unit ha hb hc hd _ ih => exact .unit ha hb hc hd ih

/-- A `P` that is shorter than `n` is still one with `e` behind it. -/
def Extends {α : Type} (P : List Char → α → List Char → Prop) (n : Nat) (e : List Char) : Prop :=
  ∀ s v rest, s.length < n → P s v rest → P (s ++ e) v (rest ++ e)

section

variable {α : Type} {P : List Char → α → List Char → Prop} {close : Char} {n : Nat}
  {e : List Char}

theorem More.append (hP : Extends P n e) (hlength : ∀ s v rest, P s v rest → rest.length < s.length)
    {s rest : List Char} {vs : List α} (h : More close P s vs rest) (hn : s.length < n) :
    More close P (s ++ e) vs (rest ++ e) := by
  induction h with
  | close hs => exact .close (hs.append e)
  | item hs hs₁ hv _ ih =>
    have hcomma := hs.length_le
    have hblank := hs₁.length_le
    have hitem := hlength _ _ _ hv
    rw [List.length_cons] at hcomma
    exact .item (hs.append e) (hs₁.append e) (hP _ _ _ (by omega) hv) (ih (by omega))

theorem Items.append (hP : Extends P n e)
    (hlength : ∀ s v rest, P s v rest → rest.length < s.length) {s rest : List Char} {vs : List α}
    (h : Items close P s vs rest) (hn : s.length < n) :
    Items close P (s ++ e) vs (rest ++ e) := by
  cases h with
  | close => exact .close
  | item hv h =>
    have hitem := hlength _ _ _ hv
    exact .item (hP _ _ _ hn hv) (h.append hP hlength (by omega))

theorem Extends.member (hP : Extends P n e) : Extends (Member P) n e := by
  rintro s m rest hn ⟨hname, hs₁, hs₂, hv⟩
  have hbody := hname.length_lt
  have hcolon := hs₁.length_le
  have hblank := hs₂.length_le
  rw [List.length_cons] at hn hcolon
  exact .mk (hname.append e) (hs₁.append e) (hs₂.append e) (hP _ _ _ (by omega) hv)

end

theorem extends_spells (n : Nat) (e : List Char) : Extends Spells n e := by
  induction n with
  | zero => exact fun s v rest hn => absurd hn (Nat.not_lt_zero _)
  | succ n ih =>
    intro s v rest hn h
    cases h with
    | null => rw [List.append_assoc]; exact .null
    | true => rw [List.append_assoc]; exact .true
    | false => rw [List.append_assoc]; exact .false
    | number hw => rw [List.append_assoc]; exact .number hw
    | string h => exact .string (h.append e)
    | list hs h =>
      have hblank := hs.length_le
      rw [List.length_cons] at hn
      exact .list (hs.append e) (h.append ih (fun _ _ _ => Spells.length_lt) (by omega))
    | object hs h =>
      have hblank := hs.length_le
      rw [List.length_cons] at hn
      exact .object (hs.append e)
        (h.append ih.member (fun _ _ _ => Member.spells_length_lt) (by omega))

/-- **A value stays the same, whatever is appended to the text.** -/
theorem Spells.append {s rest : List Char} {v : Tree} (h : Spells s v rest) (e : List Char) :
    Spells (s ++ e) v (rest ++ e) :=
  extends_spells _ e _ _ _ (Nat.lt_succ_self _) h

/-! ## Values that end by themselves -/

/-- The value is a list or an object. -/
inductive Tree.IsEnclosed : Tree → Prop
  | list (vs) : IsEnclosed (.list vs)
  | object (ms) : IsEnclosed (.object ms)

/-- A list or an object ends in one place, whatever stands behind it. -/
theorem Spells.unique_of_isEnclosed {s rest rest' : List Char} {v v' : Tree} (h : Spells s v rest)
    (h' : Spells s v' rest') (hv : v.IsEnclosed) : v = v' ∧ rest = rest' := by
  have hunique := unique_spells s.length
  have hn := Nat.lt_succ_self s.length
  rcases Tree.eq_or_of_kind (h.kind_unique h') with rfl | ⟨w, w', rfl, rfl⟩ | ⟨us, us', rfl, rfl⟩ |
    ⟨vs, vs', rfl, rfl⟩ | ⟨ms, ms', rfl, rfl⟩
  · cases hv with
    | list => exact ⟨rfl, (hunique.list h h' hn).2⟩
    | object => exact ⟨rfl, (hunique.object h h' hn).2⟩
  · cases hv
  · cases hv
  · obtain ⟨rfl, hrest⟩ := hunique.list h h' hn
    exact ⟨rfl, hrest⟩
  · obtain ⟨rfl, hrest⟩ := hunique.object h h' hn
    exact ⟨rfl, hrest⟩

theorem Blank.mem_blanks {s : List Char} (h : Blank s []) : ∀ c ∈ s, c ∈ blanks := by
  generalize hrest : [] = rest at h
  induction h with
  | none => exact hrest ▸ fun _ hc => absurd hc List.not_mem_nil
  | more hc _ ih => exact List.forall_mem_cons.mpr ⟨hc, ih hrest⟩

/-- **A document that is a list or an object goes on with white space alone**, when it is the
beginning of another document. -/
theorem Document.mem_blanks_of_append {t e : List Char} {v w : Tree} (hw : Document t w)
    (henclosed : w.IsEnclosed) (hv : Document (t ++ e) v) : ∀ c ∈ e, c ∈ blanks := by
  obtain ⟨s, rest, hblank, hspells, hend⟩ := hv
  obtain ⟨s', rest', hblank', hspells', -⟩ := hw
  have hspells'' := hspells'.append e
  obtain rfl := (hspells''.skipSpace_eq (hblank'.append e)).symm.trans (hspells.skipSpace_eq hblank)
  obtain ⟨-, rfl⟩ := hspells''.unique_of_isEnclosed hspells henclosed
  exact fun c hc => hend.mem_blanks c (List.mem_append_right _ hc)

/-- `t` is what stays of a text that is cut somewhere before its last character that is no white
space. -/
def IsTruncated (t text : List Char) : Prop :=
  ∃ kept c tail, text = kept ++ c :: tail ∧ c ∉ blanks ∧ (∀ d ∈ tail, d ∈ blanks) ∧ t <+: kept

/-- **A truncated document is no list and no object.** -/
theorem Document.not_isTruncated {t text : List Char} {v w : Tree} (hv : Document text v)
    (hw : Document t w) (henclosed : w.IsEnclosed) : ¬ IsTruncated t text := by
  rintro ⟨kept, c, tail, rfl, hc, -, more, rfl⟩
  rw [List.append_assoc] at hv
  refine hc (hw.mem_blanks_of_append henclosed hv c ?_)
  exact List.mem_append_right _ List.mem_cons_self

end PipelineLint.Json
