import PipelineLint.Json.Number
import PipelineLint.Json.String

/-!
# The grammar of JSON

What a JSON text is, and which value it spells, following the grammar of RFC 8259. Nothing here
mentions a reader. A spelling is a relation between a text, a value and what is left of the text
behind the value, so that the parts of a spelling are put together without cutting texts apart.

## Strings are code units

A string of JSON is a sequence of UTF-16 code units: escapes name units, and nothing keeps them from
naming half of a surrogate pair. A grammar that gave strings characters would have to leave such
strings out, and the program does accept them where it does not look. So a value's strings are lists
of code units, and a string that is a text is one whose units are the `utf16` of that text.

## Where a number ends

Digits can always be followed by more digits, so a spelling does not say where a number ends. In a
document it does not have to: behind a value stands a blank, a comma, a closing bracket or nothing,
and with each of these the text is `Closed`.

## Main definitions

* `Json.Tree` — a value as it stands in a text
* `Json.Blank` — white space between the parts of a value
* `Json.Body` — what stands between the quotes of a string
* `Json.IsNumber` — the spelling of a number
* `Json.Items`, `Json.Member` — what stands between brackets and between braces
* `Json.Spells`, `Json.Document` — the spellings of values, and whole texts

## Main results

* `Json.Spells.length_lt` — every value takes some text
-/

namespace PipelineLint.Json

/-! ## Values -/

/-- A JSON value as it stands in a text. -/
inductive Tree where
  | null
  | bool (b : Bool)
  | number (literal : List Char)
  | string (units : List Nat)
  | list (items : List Tree)
  | object (members : List (List Nat × Tree))

/-- The UTF-16 code units of a character: one, or a surrogate pair. -/
def units (c : Char) : List Nat :=
  if c.toNat < 0x10000 then [c.toNat]
  else [0xD800 + (c.toNat - 0x10000) / 0x400, 0xDC00 + (c.toNat - 0x10000) % 0x400]

/-- The UTF-16 code units of a text. -/
def utf16 (text : List Char) : List Nat := text.flatMap units

/-- The value is a string that is a text. -/
def IsText (v : Tree) (text : String) : Prop := v = .string (utf16 text.toList)

/-! ## White space -/

/-- The characters that may stand between the parts of a value. -/
def blanks : List Char := [' ', '\t', '\n', '\r']

/-- `s` is white space, and `rest` behind it. -/
inductive Blank : List Char → List Char → Prop
  | none {s} : Blank s s
  | more {c s rest} (hc : c ∈ blanks) (h : Blank s rest) : Blank (c :: s) rest

/-! ## Strings -/

/-- The escapes of one letter, and what they stand for. -/
def shortEscapes : List (Char × Char) :=
  [('"', '"'), ('\\', '\\'), ('/', '/'), ('b', '\x08'), ('f', '\x0C'), ('n', '\n'), ('r', '\r'),
    ('t', '\t')]

/-- `c` is the hexadecimal digit of value `n`, in either case. -/
def IsHexDigit (c : Char) (n : Nat) : Prop :=
  "0123456789abcdef".toList[n]? = some c ∨ "0123456789ABCDEF".toList[n]? = some c

/-- `s` is the body of a string with the given code units, with its closing quote and `rest` behind
it. -/
inductive Body : List Char → List Nat → List Char → Prop
  | close {rest} : Body ('"' :: rest) [] rest
  | plain {c s us rest} (hquote : c ≠ '"') (hescape : c ≠ '\\') (hcontrol : ' ' ≤ c)
      (h : Body s us rest) : Body (c :: s) (units c ++ us) rest
  | short {e c s us rest} (he : (e, c) ∈ shortEscapes) (h : Body s us rest) :
      Body ('\\' :: e :: s) (units c ++ us) rest
  | unit {a b c d x y z w s us rest} (ha : IsHexDigit a x) (hb : IsHexDigit b y)
      (hc : IsHexDigit c z) (hd : IsHexDigit d w) (h : Body s us rest) :
      Body ('\\' :: 'u' :: a :: b :: c :: d :: s) ((4096 * x + 256 * y + 16 * z + w) :: us) rest

/-! ## Numbers -/

/-- One or more digits. -/
def IsDigits (w : List Char) : Prop := w ≠ [] ∧ ∀ c ∈ w, c.isDigit

/-- The whole part of a number: no zero stands before another digit. -/
def IsWhole (w : List Char) : Prop := IsDigits w ∧ (w.head? = some '0' → w = ['0'])

/-- The fraction of a number, if it has one. -/
def IsFraction (w : List Char) : Prop := w = [] ∨ ∃ ds, IsDigits ds ∧ w = '.' :: ds

/-- The exponent of a number, if it has one. -/
def IsExponent (w : List Char) : Prop :=
  w = [] ∨ ∃ e sign ds, e ∈ ['e', 'E'] ∧ sign ∈ [[], ['+'], ['-']] ∧ IsDigits ds ∧
    w = e :: (sign ++ ds)

/-- A number without its minus sign. -/
def IsUnsigned (w : List Char) : Prop :=
  ∃ whole fraction exponent, IsWhole whole ∧ IsFraction fraction ∧ IsExponent exponent ∧
    w = whole ++ (fraction ++ exponent)

/-- A number. -/
def IsNumber (w : List Char) : Prop := IsUnsigned w ∨ ∃ u, IsUnsigned u ∧ w = '-' :: u

/-! ## Lists and objects -/

section

variable {α : Type}

/-- `s` is what may follow an item: a comma and another item, any number of times, and then the
closing character, with `rest` behind it. -/
inductive More (close : Char) (P : List Char → α → List Char → Prop) :
    List Char → List α → List Char → Prop
  | close {s rest} (hs : Blank s (close :: rest)) : More close P s [] rest
  | item {s s₁ s₂ s₃ v vs rest} (hs : Blank s (',' :: s₁)) (hs₁ : Blank s₁ s₂) (hv : P s₂ v s₃)
      (h : More close P s₃ vs rest) : More close P s (v :: vs) rest

/-- `s` is what may follow an opening character and white space: items with commas between them and
the closing character, with `rest` behind it. -/
inductive Items (close : Char) (P : List Char → α → List Char → Prop) :
    List Char → List α → List Char → Prop
  | close {rest} : Items close P (close :: rest) [] rest
  | item {s s₁ v vs rest} (hv : P s v s₁) (h : More close P s₁ vs rest) :
      Items close P s (v :: vs) rest

/-- `s` is a member of an object, with the code units of its name, and `rest` behind it. -/
inductive Member (P : List Char → α → List Char → Prop) :
    List Char → List Nat × α → List Char → Prop
  | mk {s s₁ s₂ s₃ us v rest} (hname : Body s us s₁) (hs₁ : Blank s₁ (':' :: s₂))
      (hs₂ : Blank s₂ s₃) (hv : P s₃ v rest) : Member P ('"' :: s) (us, v) rest

end

/-- `s` spells a value, with `rest` behind it. -/
inductive Spells : List Char → Tree → List Char → Prop
  | null {rest} : Spells ("null".toList ++ rest) .null rest
  | true {rest} : Spells ("true".toList ++ rest) (.bool true) rest
  | false {rest} : Spells ("false".toList ++ rest) (.bool false) rest
  | number {w rest} (hw : IsNumber w) : Spells (w ++ rest) (.number w) rest
  | string {s us rest} (h : Body s us rest) : Spells ('"' :: s) (.string us) rest
  | list {s s₁ vs rest} (hs : Blank s s₁) (h : Items ']' Spells s₁ vs rest) :
      Spells ('[' :: s) (.list vs) rest
  | object {s s₁ ms rest} (hs : Blank s s₁) (h : Items '\x7d' (Member Spells) s₁ ms rest) :
      Spells ('\x7b' :: s) (.object ms) rest

/-- The text is one value between white space. -/
def Document (text : List Char) (v : Tree) : Prop :=
  ∃ s rest, Blank text s ∧ Spells s v rest ∧ Blank rest []

/-! ## What is taken -/

theorem Blank.trans {s t rest : List Char} (hs : Blank s t) (ht : Blank t rest) : Blank s rest := by
  induction hs with
  | none => exact ht
  | more hc _ ih => exact .more hc (ih ht)

theorem Blank.length_le {s rest : List Char} (h : Blank s rest) : rest.length ≤ s.length := by
  induction h with
  | none => exact Nat.le_refl _
  | more _ _ ih => exact Nat.le_succ_of_le ih

theorem Body.length_lt {s rest : List Char} {us : List Nat} (h : Body s us rest) :
    rest.length < s.length := by
  induction h with
  | close => simp
  | plain _ _ _ _ ih => exact Nat.lt_succ_of_lt ih
  | short _ _ ih => exact Nat.lt_succ_of_lt (Nat.lt_succ_of_lt ih)
  | unit _ _ _ _ _ ih =>
    simp only [List.length_cons]
    omega

theorem IsUnsigned.exists_cons {w : List Char} (h : IsUnsigned w) :
    ∃ c t, w = c :: t ∧ c.isDigit := by
  obtain ⟨whole, fraction, exponent, ⟨⟨hne, hdigits⟩, -⟩, -, -, rfl⟩ := h
  obtain ⟨c, t, rfl⟩ := List.exists_cons_of_ne_nil hne
  exact ⟨c, t ++ (fraction ++ exponent), rfl, hdigits c List.mem_cons_self⟩

section

variable {α : Type} {P : List Char → α → List Char → Prop} {close : Char} {n : Nat}

theorem More.length_lt (hP : ∀ s v rest, s.length < n → P s v rest → rest.length < s.length)
    {s rest : List Char} {vs : List α} (h : More close P s vs rest) (hn : s.length < n) :
    rest.length < s.length := by
  induction h with
  | close hs => exact hs.length_le
  | item hs hs₁ hv _ ih =>
    have hcomma := hs.length_le
    have hblank := hs₁.length_le
    rw [List.length_cons] at hcomma
    have hitem := hP _ _ _ (by omega) hv
    have hmore := ih (by omega)
    omega

theorem Items.length_lt (hP : ∀ s v rest, s.length < n → P s v rest → rest.length < s.length)
    {s rest : List Char} {vs : List α} (h : Items close P s vs rest) (hn : s.length < n) :
    rest.length < s.length := by
  cases h with
  | close => simp
  | item hv h =>
    have hitem := hP _ _ _ hn hv
    have hmore := h.length_lt hP (by omega)
    omega

theorem Member.length_lt (hP : ∀ s v rest, s.length < n → P s v rest → rest.length < s.length)
    {s rest : List Char} {m : List Nat × α} (h : Member P s m rest) (hn : s.length < n) :
    rest.length < s.length := by
  obtain ⟨hname, hs₁, hs₂, hv⟩ := h
  have hbody := hname.length_lt
  have hcolon := hs₁.length_le
  have hblank := hs₂.length_le
  rw [List.length_cons] at hcolon hn ⊢
  have hvalue := hP _ _ _ (by omega) hv
  omega

end

/-- Every value takes some text. -/
theorem Spells.length_lt {s rest : List Char} {v : Tree} (h : Spells s v rest) :
    rest.length < s.length := by
  -- The parts of a value are shorter texts, which stand inside other relations than `Spells`.
  suffices ∀ n s v rest, s.length < n → Spells s v rest → rest.length < s.length from
    this (s.length + 1) s v rest (Nat.lt_succ_self _) h
  have hword (w rest : List Char) (hw : w ≠ []) : rest.length < (w ++ rest).length := by
    rw [List.length_append]
    exact Nat.lt_add_of_pos_left (List.length_pos_iff.mpr hw)
  intro n
  induction n with
  | zero => exact fun s v rest hn => absurd hn (Nat.not_lt_zero _)
  | succ n ih =>
    intro s v rest hn h
    cases h with
    | null => exact hword _ _ (by decide)
    | true => exact hword _ _ (by decide)
    | false => exact hword _ _ (by decide)
    | number hw =>
      refine hword _ _ ?_
      rcases hw with hw | ⟨u, hw, rfl⟩
      · obtain ⟨c, t, rfl, -⟩ := hw.exists_cons
        exact List.cons_ne_nil _ _
      · exact List.cons_ne_nil _ _
    | string h => exact Nat.lt_succ_of_lt h.length_lt
    | list hs h =>
      have hblank := hs.length_le
      rw [List.length_cons] at hn ⊢
      have hitems := h.length_lt ih (by omega)
      omega
    | object hs h =>
      have hblank := hs.length_le
      rw [List.length_cons] at hn ⊢
      have hitems := h.length_lt (fun s m rest hn hm => hm.length_lt ih hn) (by omega)
      omega

theorem Member.spells_length_lt {s rest : List Char} {m : List Nat × Tree}
    (h : Member Spells s m rest) : rest.length < s.length :=
  h.length_lt (fun _ _ _ _ hv => hv.length_lt) (Nat.lt_succ_self _)

/-! ## What stands around a value -/

/-- The characters that a value starts with. -/
def Opens (c : Char) : Prop := c ∈ ['n', 't', 'f', '"', '[', '\x7b', '-'] ∨ c.isDigit

instance (c : Char) : Decidable (Opens c) := inferInstanceAs (Decidable (_ ∨ _))

theorem Spells.exists_cons {s rest : List Char} {v : Tree} (h : Spells s v rest) :
    ∃ c t, s = c :: t ∧ Opens c := by
  cases h with
  | null => exact ⟨_, _, rfl, .inl (by decide)⟩
  | true => exact ⟨_, _, rfl, .inl (by decide)⟩
  | false => exact ⟨_, _, rfl, .inl (by decide)⟩
  | number hw =>
    rcases hw with hw | ⟨u, hw, rfl⟩
    · obtain ⟨c, t, rfl, hc⟩ := hw.exists_cons
      exact ⟨c, _, rfl, .inr hc⟩
    · exact ⟨'-', _, rfl, .inl (by decide)⟩
  | string => exact ⟨_, _, rfl, .inl (by decide)⟩
  | list => exact ⟨_, _, rfl, .inl (by decide)⟩
  | object => exact ⟨_, _, rfl, .inl (by decide)⟩

/-- A number that stands before this text ends there. -/
def Closed : List Char → Prop
  | [] => True
  | c :: _ => c.isDigit = false ∧ c ∉ ['.', 'e', 'E']

theorem closed_bracket (rest : List Char) : Closed (']' :: rest) := ⟨by decide, by decide⟩

theorem closed_brace (rest : List Char) : Closed ('\x7d' :: rest) := ⟨by decide, by decide⟩

theorem Blank.closed {s rest : List Char} (h : Blank s rest) (hrest : Closed rest) : Closed s := by
  cases h with
  | none => exact hrest
  | more hc h =>
    simp only [blanks, List.mem_cons, List.not_mem_nil, or_false] at hc
    rcases hc with rfl | rfl | rfl | rfl <;> exact ⟨by decide, by decide⟩

theorem More.closed {α : Type} {P : List Char → α → List Char → Prop} {close : Char}
    {s rest : List Char} {vs : List α} (h : More close P s vs rest)
    (hclose : ∀ t, Closed (close :: t)) : Closed s := by
  cases h with
  | close hs => exact hs.closed (hclose _)
  | item hs => exact hs.closed ⟨by decide, by decide⟩

end PipelineLint.Json
