/-!
# UTF-8

Characters as bytes and bytes as characters. Reading splits a byte sequence into pieces, each of
them a character or a maximal broken part, and never fails. Strict decoding reports the first broken
part by its index and length; lenient decoding puts U+FFFD in the place of each.

## Main definitions

* `Text.Utf8.encode` — the bytes of a text
* `Text.Utf8.takeBytes?` — the beginning of a text that a number of bytes makes
* `Text.Utf8.pieces` — the characters and broken parts of a byte sequence
* `Text.Utf8.decode` — the text of a byte sequence, or its first broken part
* `Text.Utf8.decodeLenient` — the text of a byte sequence, with U+FFFD for every broken part
-/

namespace PipelineLint.Text.Utf8

/-- The bytes of `s`. -/
def encode (s : List Char) : List UInt8 := s.flatMap String.utf8EncodeChar

theorem encode_cons (x : Char) (s : List Char) :
    encode (x :: s) = String.utf8EncodeChar x ++ encode s := List.flatMap_cons

theorem encode_append (s t : List Char) : encode (s ++ t) = encode s ++ encode t :=
  List.flatMap_append

theorem length_encode_cons (x : Char) (s : List Char) :
    (encode (x :: s)).length = x.utf8Size + (encode s).length := by
  rw [encode_cons, List.length_append, String.length_utf8EncodeChar]

/-- The beginning of a text that its first `n` bytes make, unless the text is shorter or they end
inside a character. -/
def takeBytes? : Nat → List Char → Option (List Char)
  | 0, _ => some []
  | _ + 1, [] => none
  | n + 1, x :: s =>
    if x.utf8Size ≤ n + 1 then (takeBytes? (n + 1 - x.utf8Size) s).map (x :: ·) else none

theorem takeBytes?_eq_some_iff {n : Nat} {s head : List Char} :
    takeBytes? n s = some head ↔ head <+: s ∧ (encode head).length = n := by
  fun_induction takeBytes? n s generalizing head with
  | case1 s =>
    cases head with
    | nil => simp [encode]
    | cons x head =>
      have hsize := x.utf8Size_pos
      refine iff_of_false (by simp) ?_
      rintro ⟨-, hlength⟩
      rw [length_encode_cons] at hlength
      omega
  | case2 n =>
    refine iff_of_false (by simp) ?_
    rintro ⟨hhead, hlength⟩
    rw [List.prefix_nil.mp hhead] at hlength
    cases hlength
  | case3 n x s hfits ih =>
    cases head with
    | nil => simp [encode]
    | cons y head =>
      simp only [Option.map_eq_some_iff, ih, List.cons.injEq, length_encode_cons,
        List.cons_prefix_cons]
      constructor
      · rintro ⟨head', ⟨hhead, hlength⟩, rfl, rfl⟩
        exact ⟨⟨rfl, hhead⟩, by omega⟩
      · rintro ⟨⟨rfl, hhead⟩, hlength⟩
        exact ⟨head, ⟨hhead, by omega⟩, rfl, rfl⟩
  | case4 n x s hfits =>
    refine iff_of_false (by simp) ?_
    rintro ⟨hhead, hlength⟩
    cases head with
    | nil => cases hlength
    | cons y head =>
      obtain rfl := (List.cons_prefix_cons.mp hhead).1
      rw [length_encode_cons] at hlength
      omega

theorem takeBytes?_eq_none_iff {n : Nat} {s : List Char} :
    takeBytes? n s = none ↔ (encode s).length < n ∨
      ∃ before x after, s = before ++ x :: after ∧ (encode before).length < n ∧
        n < (encode (before ++ [x])).length := by
  fun_induction takeBytes? n s with
  | case1 s => simp
  | case2 n => exact iff_of_true rfl (.inl (Nat.succ_pos n))
  | case3 n x s hfits ih =>
    rw [Option.map_eq_none_iff, ih, length_encode_cons]
    refine or_congr (by omega) ⟨?_, ?_⟩
    · rintro ⟨before, y, after, rfl, hstart, hend⟩
      refine ⟨x :: before, y, after, rfl, ?_, ?_⟩
      · rw [length_encode_cons]
        omega
      · rw [List.cons_append, length_encode_cons]
        omega
    · rintro ⟨before, y, after, hs, hstart, hend⟩
      cases before with
      | nil =>
        obtain ⟨rfl, rfl⟩ := List.cons.inj hs
        rw [List.nil_append, length_encode_cons] at hend
        exact absurd hfits (by simpa [encode] using hend)
      | cons z before =>
        obtain ⟨rfl, rfl⟩ := List.cons.inj hs
        rw [length_encode_cons] at hstart
        rw [List.cons_append, length_encode_cons] at hend
        exact ⟨before, y, after, rfl, by omega, by omega⟩
  | case4 n x s hfits =>
    refine iff_of_true rfl (.inr ⟨[], x, s, rfl, Nat.succ_pos n, ?_⟩)
    rw [List.nil_append, length_encode_cons]
    omega

/-- A part of a byte sequence. -/
inductive Piece where
  /-- The well-formed bytes of one character. -/
  | char (c : Char)
  /-- `length` bytes that start no character together with what follows them. They are `cut` when
  the sequence ends where a character could still have been completed. -/
  | broken (length : Nat) (cut : Bool)
  deriving DecidableEq, Repr

/-- What the first byte of a character says about the rest of it. -/
inductive Lead where
  /-- The byte is a character of its own. -/
  | whole
  /-- `tails` more bytes follow, and the first of them lies between `low` and `high`. -/
  | more (tails : Nat) (low high : UInt8)
  /-- No character starts with the byte. -/
  | never
  deriving DecidableEq, Repr

/-- The bounds on the second byte rule out overlong forms, surrogates and numbers above the last
code point. -/
def Lead.ofByte (b : UInt8) : Lead :=
  if b ≤ 0x7F then .whole
  else if b ≤ 0xC1 then .never
  else if b ≤ 0xDF then .more 1 0x80 0xBF
  else if b == 0xE0 then .more 2 0xA0 0xBF
  else if b == 0xED then .more 2 0x80 0x9F
  else if b ≤ 0xEF then .more 2 0x80 0xBF
  else if b == 0xF0 then .more 3 0x90 0xBF
  else if b ≤ 0xF3 then .more 3 0x80 0xBF
  else if b == 0xF4 then .more 3 0x80 0x8F
  else .never

/-- Whether `b` continues a character. -/
def isTail (b : UInt8) : Bool := 0x80 ≤ b && b ≤ 0xBF

/-- The character whose first byte is `b`, cut down to its `mask`, and whose further bytes are
`tails`, six bits each. -/
def assemble (b mask : UInt8) (tails : List UInt8) : Char :=
  Char.ofNat (tails.foldl (fun n t => 64 * n + (t &&& 0x3F).toNat) (b &&& mask).toNat)

/-- The pieces of a byte sequence, in order. A broken part is as long as it can be while a
character could still start with it, and at least one byte. -/
def pieces : List UInt8 → List Piece
  | [] => []
  | a :: s =>
    match Lead.ofByte a with
    | .whole => .char (Char.ofNat a.toNat) :: pieces s
    | .never => .broken 1 false :: pieces s
    | .more n low high =>
      match s with
      | [] => [.broken 1 true]
      | b :: t =>
        if low ≤ b && b ≤ high then
          if n == 1 then .char (assemble a 0x1F [b]) :: pieces t
          else
            match t with
            | [] => [.broken 2 true]
            | c :: u =>
              if isTail c then
                if n == 2 then .char (assemble a 0x0F [b, c]) :: pieces u
                else
                  match u with
                  | [] => [.broken 3 true]
                  | d :: v =>
                    if isTail d then .char (assemble a 0x07 [b, c, d]) :: pieces v
                    else .broken 3 false :: pieces (d :: v)
              else .broken 2 false :: pieces (c :: u)
        else .broken 1 false :: pieces (b :: t)

/-- Where and how a byte sequence stops being text. -/
structure Malformed where
  /-- The number of well-formed bytes before the broken part. -/
  index : Nat
  /-- The length of the broken part. -/
  length : Nat
  /-- Whether the sequence ends inside a character. -/
  cut : Bool
  deriving DecidableEq, Repr

/-- The error text of a byte sequence that is no text. -/
def Malformed.message (m : Malformed) : String :=
  if m.cut then s!"incomplete utf-8 byte sequence from index {m.index}"
  else s!"invalid utf-8 sequence of {m.length} bytes from index {m.index}"

/-- The characters of `ps` when none of them is broken; `index` bytes come before them. -/
def chars (index : Nat) : List Piece → Except Malformed (List Char)
  | [] => .ok []
  | .char c :: ps =>
    match chars (index + c.utf8Size) ps with
    | .ok s => .ok (c :: s)
    | .error m => .error m
  | .broken length cut :: _ => .error { index, length, cut }

/-- The text of a byte sequence. -/
def decode (bytes : List UInt8) : Except Malformed (List Char) := chars 0 (pieces bytes)

/-- The character that stands for a piece when broken parts are let pass. -/
def Piece.toChar : Piece → Char
  | .char c => c
  | .broken _ _ => '\uFFFD'

/-- The text of a byte sequence, with U+FFFD in the place of each broken part. -/
def decodeLenient (bytes : List UInt8) : List Char := (pieces bytes).map Piece.toChar

end PipelineLint.Text.Utf8
