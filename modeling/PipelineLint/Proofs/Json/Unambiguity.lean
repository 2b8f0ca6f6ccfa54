import PipelineLint.Proofs.Json.Skipping

/-!
# A text spells one value

The grammar is unambiguous: no text is a document of two values, whatever its escapes and its white
space. What a value looks like at its first character tells its kind, and what stands behind it is
known because skipping takes every value to the same end. So only the parts of lists and objects
have to be compared, and these are shorter texts.

## Main results

* `Json.Body.unique` — a string
* `Json.Spells.unique`, `Json.Document.unique` — a value, and a text
-/

namespace PipelineLint.Json

theorem IsHexDigit.unique {c : Char} {n m : Nat} (hn : IsHexDigit c n) (hm : IsHexDigit c m) :
    n = m :=
  Option.some.inj ((hexValue?_eq_some_iff.mpr hn).symm.trans (hexValue?_eq_some_iff.mpr hm))

theorem shortEscapes_unique {e c d : Char} (hc : (e, c) ∈ shortEscapes)
    (hd : (e, d) ∈ shortEscapes) : c = d :=
  Option.some.inj ((escaped?_eq_some_iff.mpr hc).symm.trans (escaped?_eq_some_iff.mpr hd))

theorem not_mem_shortEscapes_u (c : Char) : ('u', c) ∉ shortEscapes := by
  simp [shortEscapes]

/-- The code units of a string are determined by its body. -/
theorem Body.unique {s rest rest' : List Char} {us us' : List Nat} (h : Body s us rest)
    (h' : Body s us' rest') : us = us' ∧ rest = rest' := by
  induction h generalizing us' with
  | close =>
    cases h' with
    | close => exact ⟨rfl, rfl⟩
    | plain hquote => exact absurd rfl hquote
  | plain hquote hescape _ _ ih =>
    cases h' with
    | close => exact absurd rfl hquote
    | plain _ _ _ h =>
      obtain ⟨rfl, rfl⟩ := ih h
      exact ⟨rfl, rfl⟩
    | short => exact absurd rfl hescape
    | unit => exact absurd rfl hescape
  | short he _ ih =>
    cases h' with
    | plain _ hescape => exact absurd rfl hescape
    | short he' h =>
      obtain ⟨rfl, rfl⟩ := ih h
      rw [shortEscapes_unique he he']
      exact ⟨rfl, rfl⟩
    | unit => exact absurd he (not_mem_shortEscapes_u _)
  | unit ha hb hc hd _ ih =>
    cases h' with
    | plain _ hescape => exact absurd rfl hescape
    | short he => exact absurd he (not_mem_shortEscapes_u _)
    | unit ha' hb' hc' hd' h =>
      obtain ⟨rfl, rfl⟩ := ih h
      rw [ha.unique ha', hb.unique hb', hc.unique hc', hd.unique hd']
      exact ⟨rfl, rfl⟩

/-! ## Parts -/

/-- Texts shorter than `n` are a `P` in one way, and a `P` starts neither with white space nor with
the closing character. -/
structure Unique {α : Type} (close : Char) (P : List Char → α → List Char → Prop) (n : Nat) :
    Prop where
  starts {s v rest} : P s v rest → ∃ c t, s = c :: t ∧ isSpace c = false ∧ c ≠ close
  shorter {s v rest} : P s v rest → rest.length < s.length
  unique {s v v' rest rest'} : s.length < n → P s v rest → P s v' rest' → Closed rest →
    Closed rest' → v = v' ∧ rest = rest'

section

variable {α : Type} {P : List Char → α → List Char → Prop} {close : Char} {n : Nat}

theorem Unique.skipSpace_eq (hP : Unique close P n) {s s₁ rest : List Char} {v : α}
    (hs : Blank s s₁) (h : P s₁ v rest) : skipSpace s = s₁ := by
  obtain ⟨c, t, rfl, hc, -⟩ := hP.starts h
  exact hs.skipSpace_eq_cons hc

theorem More.unique (hP : Unique close P n) (hclose : ∀ t, Closed (close :: t))
    (hspace : isSpace close = false) (hcomma : close ≠ ',') {s rest rest' : List Char}
    {vs vs' : List α} (h : More close P s vs rest) (h' : More close P s vs' rest')
    (hn : s.length < n) : vs = vs' ∧ rest = rest' := by
  induction h generalizing vs' with
  | close hs =>
    have hskip := hs.skipSpace_eq_cons hspace
    cases h' with
    | close hs' =>
      obtain ⟨-, rfl⟩ := List.cons.inj (hskip.symm.trans (hs'.skipSpace_eq_cons hspace))
      exact ⟨rfl, rfl⟩
    | item hs' =>
      have hsame := hskip.symm.trans (hs'.skipSpace_eq_cons (by decide))
      exact absurd (List.cons.inj hsame).1 hcomma
  | item hs hs₁ hv hmore ih =>
    have hskip := hs.skipSpace_eq_cons (c := ',') (by decide)
    cases h' with
    | close hs' =>
      have hsame := (hs'.skipSpace_eq_cons hspace).symm.trans hskip
      exact absurd (List.cons.inj hsame).1 hcomma
    | item hs' hs₁' hv' hmore' =>
      obtain ⟨-, rfl⟩ := List.cons.inj (hskip.symm.trans (hs'.skipSpace_eq_cons (by decide)))
      obtain rfl := (hP.skipSpace_eq hs₁ hv).symm.trans (hP.skipSpace_eq hs₁' hv')
      have hcomma' := hs.length_le
      have hblank := hs₁.length_le
      have hitem := hP.shorter hv
      rw [List.length_cons] at hcomma'
      obtain ⟨rfl, rfl⟩ :=
        hP.unique (by omega) hv hv' (hmore.closed hclose) (hmore'.closed hclose)
      obtain ⟨rfl, rfl⟩ := ih hmore' (by omega)
      exact ⟨rfl, rfl⟩

theorem Items.skipSpace_eq (hP : Unique close P n) (hspace : isSpace close = false)
    {s s₁ rest : List Char} {vs : List α} (hs : Blank s s₁) (h : Items close P s₁ vs rest) :
    skipSpace s = s₁ := by
  cases h with
  | close => exact hs.skipSpace_eq_cons hspace
  | item hv => exact hP.skipSpace_eq hs hv

theorem Items.unique (hP : Unique close P n) (hclose : ∀ t, Closed (close :: t))
    (hspace : isSpace close = false) (hcomma : close ≠ ',') {s rest rest' : List Char}
    {vs vs' : List α} (h : Items close P s vs rest) (h' : Items close P s vs' rest')
    (hn : s.length < n) : vs = vs' ∧ rest = rest' := by
  have hstart {t rest : List Char} {v : α} (hv : P (close :: t) v rest) : False := by
    obtain ⟨c, u, hs, -, hc⟩ := hP.starts hv
    exact hc (List.cons.inj hs).1.symm
  cases h with
  | close =>
    cases h' with
    | close => exact ⟨rfl, rfl⟩
    | item hv => exact (hstart hv).elim
  | item hv hmore =>
    cases h' with
    | close => exact (hstart hv).elim
    | item hv' hmore' =>
      have hitem := hP.shorter hv
      obtain ⟨rfl, rfl⟩ := hP.unique hn hv hv' (hmore.closed hclose) (hmore'.closed hclose)
      obtain ⟨rfl, rfl⟩ := hmore.unique hP hclose hspace hcomma hmore' (by omega)
      exact ⟨rfl, rfl⟩

end

theorem Unique.member {n : Nat} (hP : Unique ']' Spells n) : Unique '\x7d' (Member Spells) n where
  starts h := by
    cases h
    exact ⟨_, _, rfl, by decide, by decide⟩
  shorter h := h.spells_length_lt
  unique {s m m' rest rest'} hn h h' hclosed hclosed' := by
    cases h with
    | mk hname hs₁ hs₂ hv =>
      cases h' with
      | mk hname' hs₁' hs₂' hv' =>
        have hbody := hname.length_lt
        have hcolon := hs₁.length_le
        have hblank := hs₂.length_le
        rw [List.length_cons] at hn hcolon
        obtain ⟨rfl, rfl⟩ := hname.unique hname'
        obtain ⟨-, rfl⟩ := List.cons.inj ((hs₁.skipSpace_eq_cons (by decide)).symm.trans
          (hs₁'.skipSpace_eq_cons (by decide)))
        obtain rfl := (hP.skipSpace_eq hs₂ hv).symm.trans (hP.skipSpace_eq hs₂' hv')
        obtain ⟨rfl, rfl⟩ := hP.unique (by omega) hv hv' hclosed hclosed'
        exact ⟨rfl, rfl⟩

/-! ## Values -/

/-- A character for each kind of value. -/
def Tree.kind : Tree → Char
  | .null => 'n'
  | .bool true => 't'
  | .bool false => 'f'
  | .number _ => '0'
  | .string _ => '"'
  | .list _ => '['
  | .object _ => '\x7b'

/-- The kind of a value can be told from the first character of its spelling. -/
theorem Spells.kind_eq {s rest : List Char} {v : Tree} (h : Spells s v rest) :
    ∃ c t, s = c :: t ∧ v.kind = if c.isDigit ∨ c = '-' then '0' else c := by
  cases h with
  | null => exact ⟨_, _, rfl, rfl⟩
  | true => exact ⟨_, _, rfl, rfl⟩
  | false => exact ⟨_, _, rfl, rfl⟩
  | number hw =>
    rcases hw with hw | ⟨u, hw, rfl⟩
    · obtain ⟨c, t, rfl, hc⟩ := hw.exists_cons
      exact ⟨c, _, rfl, (if_pos (.inl hc)).symm⟩
    · exact ⟨_, _, rfl, rfl⟩
  | string => exact ⟨_, _, rfl, rfl⟩
  | list => exact ⟨_, _, rfl, rfl⟩
  | object => exact ⟨_, _, rfl, rfl⟩

theorem Spells.kind_unique {s rest rest' : List Char} {v v' : Tree} (h : Spells s v rest)
    (h' : Spells s v' rest') : v.kind = v'.kind := by
  obtain ⟨c, t, rfl, hv⟩ := h.kind_eq
  obtain ⟨c', t', hs, hv'⟩ := h'.kind_eq
  rw [hv, hv', (List.cons.inj hs).1]

/-- Two values of one kind are the same word, or they have parts. -/
theorem Tree.eq_or_of_kind {v v' : Tree} (h : v.kind = v'.kind) :
    v = v' ∨ (∃ w w', v = .number w ∧ v' = .number w') ∨
      (∃ us us', v = .string us ∧ v' = .string us') ∨
      (∃ vs vs', v = .list vs ∧ v' = .list vs') ∨
      ∃ ms ms', v = .object ms ∧ v' = .object ms' := by
  cases v with
  | bool b => cases b <;> cases v' with
    | bool b' => cases b' <;> simp [kind] at h ⊢
    | _ => simp [kind] at h
  | _ => cases v' with
    | bool b' => cases b' <;> simp [kind] at h
    | _ => simp [kind] at h ⊢

/-- A list tells by its own bracket where it ends, so that nothing has to be known of the text
behind it. -/
theorem Unique.list {n : Nat} (hP : Unique ']' Spells n) {s rest rest' : List Char}
    {vs vs' : List Tree} (h : Spells s (.list vs) rest) (h' : Spells s (.list vs') rest')
    (hn : s.length < n + 1) : vs = vs' ∧ rest = rest' := by
  cases h with
  | list hblank hvs =>
    generalize hs : '[' :: _ = s at h'
    cases h' with
    | list hblank' hvs' =>
      obtain ⟨-, rfl⟩ := List.cons.inj hs
      have hspace : isSpace ']' = false := by decide
      have hshorter := hblank.length_le
      rw [List.length_cons] at hn
      obtain rfl := (hvs.skipSpace_eq hP hspace hblank).symm.trans
        (hvs'.skipSpace_eq hP hspace hblank')
      exact hvs.unique hP closed_bracket hspace (by decide) hvs' (by omega)

/-- The same for an object and its brace. -/
theorem Unique.object {n : Nat} (hP : Unique ']' Spells n) {s rest rest' : List Char}
    {ms ms' : List (List Nat × Tree)} (h : Spells s (.object ms) rest)
    (h' : Spells s (.object ms') rest') (hn : s.length < n + 1) : ms = ms' ∧ rest = rest' := by
  cases h with
  | object hblank hms =>
    generalize hs : '\x7b' :: _ = s at h'
    cases h' with
    | object hblank' hms' =>
      obtain ⟨-, rfl⟩ := List.cons.inj hs
      have hspace : isSpace '\x7d' = false := by decide
      have hshorter := hblank.length_le
      rw [List.length_cons] at hn
      obtain rfl := (hms.skipSpace_eq hP.member hspace hblank).symm.trans
        (hms'.skipSpace_eq hP.member hspace hblank')
      exact hms.unique hP.member closed_brace hspace (by decide) hms' (by omega)

theorem unique_spells (n : Nat) : Unique ']' Spells n := by
  have hstarts {s rest : List Char} {v : Tree} (h : Spells s v rest) :
      ∃ c t, s = c :: t ∧ isSpace c = false ∧ c ≠ ']' := by
    obtain ⟨c, t, rfl, hc⟩ := h.exists_cons
    refine ⟨c, t, rfl, hc.isSpace_eq_false, ?_⟩
    rintro rfl
    exact absurd hc (by decide)
  induction n with
  | zero => exact ⟨hstarts, Spells.length_lt, fun hn => absurd hn (Nat.not_lt_zero _)⟩
  | succ n ih =>
    refine ⟨hstarts, Spells.length_lt, fun {s v v' rest rest'} hn h h' hclosed hclosed' => ?_⟩
    -- Skipping takes both values to the same end.
    obtain rfl : rest = rest' :=
      Except.ok.inj ((h.skipValue .none hclosed).symm.trans (h'.skipValue .none hclosed'))
    refine ⟨?_, rfl⟩
    rcases Tree.eq_or_of_kind (h.kind_unique h') with heq | ⟨w, w', rfl, rfl⟩ |
      ⟨us, us', rfl, rfl⟩ | ⟨vs, vs', rfl, rfl⟩ | ⟨ms, ms', rfl, rfl⟩
    · exact heq
    · cases h with
      | number hw =>
        generalize hs : w ++ rest = s at h'
        cases h' with
        | number hw' => rw [List.append_cancel_right hs]
    · cases h with
      | string hbody =>
        generalize hs : '"' :: _ = s at h'
        cases h' with
        | string hbody' =>
          obtain ⟨-, rfl⟩ := List.cons.inj hs
          rw [(hbody.unique hbody').1]
    · rw [(ih.list h h' hn).1]
    · rw [(ih.object h h' hn).1]

/-- **The grammar is unambiguous.** -/
theorem Spells.unique {s rest rest' : List Char} {v v' : Tree} (h : Spells s v rest)
    (h' : Spells s v' rest') (hclosed : Closed rest) (hclosed' : Closed rest') :
    v = v' ∧ rest = rest' :=
  (unique_spells (s.length + 1)).unique (Nat.lt_succ_self _) h h' hclosed hclosed'

theorem Document.unique {text : List Char} {v v' : Tree} (h : Document text v)
    (h' : Document text v') : v = v' := by
  obtain ⟨s, rest, hblank, hv, hend⟩ := h
  obtain ⟨s', rest', hblank', hv', hend'⟩ := h'
  obtain rfl := (hv.skipSpace_eq hblank).symm.trans (hv'.skipSpace_eq hblank')
  exact (hv.unique hv' (hend.closed trivial) (hend'.closed trivial)).1

end PipelineLint.Json
