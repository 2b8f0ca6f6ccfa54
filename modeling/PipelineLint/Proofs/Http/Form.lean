import PipelineLint.Http.Form

/-!
# Forms are read as they are written

Decoding an encoded form gives back its names and values, byte by byte. Decoding turns plus signs
into spaces before it looks at percent signs, over the whole text at once, so the argument is about
what the two passes together make of one encoded character, with anything behind it.

The separators need one fact only: neither stands in what is encoded.

## Main results

* `Http.decodePercent_percentByte_append` — a byte is read back from its two digits
* `Http.Form.decodePart_encodePart` — a name or a value is read back
* `Http.Form.decode_encode` — a form is read back
-/

namespace PipelineLint

/-! ## Splitting at a character -/

namespace Text

variable {separates : Char → Bool}

theorem splitAt_of_forall {part : List Char} (hpart : ∀ c ∈ part, separates c = false) :
    splitAt separates part = [part] := by
  induction part with
  | nil => rfl
  | cons c part ih =>
    have hc : separates c = false := hpart c List.mem_cons_self
    simp [splitAt, hc, ih fun d hd => hpart d (List.mem_cons_of_mem c hd)]

theorem splitAt_append_cons {part : List Char} {c : Char}
    (hpart : ∀ c ∈ part, separates c = false) (hc : separates c = true) (rest : List Char) :
    splitAt separates (part ++ c :: rest) = part :: splitAt separates rest := by
  induction part with
  | nil => simp [splitAt, hc]
  | cons d part ih =>
    have hd : separates d = false := hpart d List.mem_cons_self
    simp [splitAt, hd, ih fun e he => hpart e (List.mem_cons_of_mem d he)]

theorem splitAt_intercalate {c : Char} (hc : separates c = true) {parts : List (List Char)}
    (hne : parts ≠ []) (hparts : ∀ part ∈ parts, ∀ d ∈ part, separates d = false) :
    splitAt separates ([c].intercalate parts) = parts := by
  induction parts with
  | nil => cases hne rfl
  | cons part parts ih =>
    have hpart := hparts part List.mem_cons_self
    cases parts with
    | nil => simpa using splitAt_of_forall hpart
    | cons next parts =>
      have hmore := ih (by simp) fun p hp => hparts p (List.mem_cons_of_mem part hp)
      rw [List.intercalate_cons_cons, List.append_assoc, List.singleton_append,
        splitAt_append_cons hpart hc, hmore]

end Text

namespace Http

/-! ## Percent encoding -/

theorem hexValue?_hexDigit {n : Nat} (h : n < 16) : hexValue? (hexDigit n) = some n := by
  have hall : ∀ n < 16, hexValue? (hexDigit n) = some n := by decide
  exact hall n h

theorem decodePercent_percentByte_append (b : UInt8) (rest : List Char) :
    decodePercent (percentByte b ++ rest) = b :: decodePercent rest := by
  have hb : b.toNat < 256 := b.toNat_lt
  have hhigh : hexValue? (hexDigit (b.toNat / 16)) = some (b.toNat / 16) :=
    hexValue?_hexDigit (by omega)
  have hlow : hexValue? (hexDigit (b.toNat % 16)) = some (b.toNat % 16) :=
    hexValue?_hexDigit (by omega)
  simp only [percentByte, List.cons_append, List.nil_append, decodePercent, hhigh, hlow,
    Nat.div_add_mod, UInt8.ofNat_toNat]

theorem decodePercent_cons {c : Char} (hc : c ≠ '%') (s : List Char) :
    decodePercent (c :: s) = String.utf8EncodeChar c ++ decodePercent s := by
  rw [decodePercent]
  intro a b more h
  exact absurd h hc

namespace Form

/-! ## What stands in what is encoded -/

theorem isPlain_hexDigit {n : Nat} (h : n < 16) : isPlain (hexDigit n) = true := by
  have hall : ∀ n < 16, isPlain (hexDigit n) = true := by decide
  exact hall n h

theorem mem_percentByte {b : UInt8} {c : Char} (hc : c ∈ percentByte b) :
    c = '%' ∨ isPlain c = true := by
  have hb : b.toNat < 256 := b.toNat_lt
  simp only [percentByte, List.mem_cons, List.not_mem_nil, or_false] at hc
  rcases hc with rfl | rfl | rfl
  · exact .inl rfl
  · exact .inr (isPlain_hexDigit (by omega))
  · exact .inr (isPlain_hexDigit (by omega))

theorem mem_encodePart {s : String} {c : Char} (hc : c ∈ encodePart s) :
    c = '+' ∨ c = '%' ∨ isPlain c = true := by
  obtain ⟨d, -, hd⟩ := List.mem_flatMap.mp hc
  rw [encodeChar, percentChar] at hd
  split at hd
  · exact .inl (by simpa using hd)
  · split at hd
    · obtain ⟨b, -, hb⟩ := List.mem_flatMap.mp hd
      exact .inr (mem_percentByte hb)
    next h =>
      obtain rfl : c = d := by simpa using hd
      exact .inr (.inr (by simp at h; exact h.1))

theorem not_mem_encodePart {s : String} {c : Char} (hc : c = '&' ∨ c = '=') :
    c ∉ encodePart s := by
  intro hmem
  rcases mem_encodePart hmem with rfl | rfl | hplain
  · simp at hc
  · simp at hc
  · rcases hc with rfl | rfl
    · exact absurd hplain (by decide)
    · exact absurd hplain (by decide)

/-! ## Names and values -/

theorem decodePart_flatMap_percentByte_append (bytes : List UInt8) (rest : List Char) :
    decodePart (bytes.flatMap percentByte ++ rest) = bytes ++ decodePart rest := by
  have hplus (b : UInt8) :
      (percentByte b).map (fun c => if c = '+' then ' ' else c) = percentByte b := by
    have hne : ∀ c ∈ percentByte b, (if c = '+' then ' ' else c) = c := fun c hc =>
      if_neg fun h => absurd (mem_percentByte hc) (by rw [h]; decide)
    rw [List.map_congr_left hne, List.map_id']
  induction bytes with
  | nil => rfl
  | cons b bytes ih =>
    rw [decodePart, List.flatMap_cons, List.append_assoc, List.map_append, hplus,
      decodePercent_percentByte_append, ← decodePart, ih, List.cons_append]

theorem decodePart_encodeChar_append (c : Char) (rest : List Char) :
    decodePart (encodeChar c ++ rest) = String.utf8EncodeChar c ++ decodePart rest := by
  rw [encodeChar, percentChar]
  split
  next h =>
    subst h
    exact decodePercent_cons (by decide) _
  next hspace =>
    split
    · exact decodePart_flatMap_percentByte_append _ rest
    next h =>
      have hplain : isPlain c = true := by simp at h; exact h.1
      have hplus : c ≠ '+' := by rintro rfl; exact absurd hplain (by decide)
      have hpercent : c ≠ '%' := by rintro rfl; exact absurd hplain (by decide)
      rw [decodePart, List.singleton_append, List.map_cons, if_neg hplus,
        decodePercent_cons hpercent, ← decodePart]

theorem decodePart_encodePart (s : String) :
    decodePart (encodePart s) = Text.Utf8.encode s.toList := by
  rw [encodePart]
  induction s.toList with
  | nil => rfl
  | cons c s ih =>
    rw [List.flatMap_cons, decodePart_encodeChar_append, ih, Text.Utf8.encode_cons]

/-! ## Forms -/

theorem decodePair_encodePair (pair : String × String) :
    decodePair (encodePair pair) =
      (Text.Utf8.encode pair.1.toList, Text.Utf8.encode pair.2.toList) := by
  have hname : ∀ c ∈ encodePart pair.1, (c != '=') = true := fun c hc => by
    simpa using fun h => not_mem_encodePart (.inr rfl) (h ▸ hc)
  rw [decodePair, encodePair, List.append_assoc, List.takeWhile_append_of_pos hname,
    List.dropWhile_append_of_pos hname]
  simp [decodePart_encodePart]

theorem not_mem_encodePair (pair : String × String) : '&' ∉ encodePair pair := by
  simp [encodePair, not_mem_encodePart (.inl rfl)]

/-- **A form is read back byte by byte**, with its names and values in order and nothing beside
them. -/
theorem decode_encode (form : Form) :
    decode (encode form) =
      form.map fun pair => (Text.Utf8.encode pair.1.toList, Text.Utf8.encode pair.2.toList) := by
  have hseparator : ∀ part ∈ form.map encodePair, ∀ c ∈ part, (c == '&') = false := by
    intro part hpart c hc
    obtain ⟨pair, -, rfl⟩ := List.mem_map.mp hpart
    simpa using fun h : c = '&' => not_mem_encodePair pair (h ▸ hc)
  have hsome : ∀ part ∈ form.map encodePair, (!part.isEmpty) = true := by
    intro part hpart
    obtain ⟨pair, -, rfl⟩ := List.mem_map.mp hpart
    simp [encodePair]
  cases form with
  | nil => rfl
  | cons pair form =>
    rw [decode, encode, Text.splitAt_intercalate rfl (by simp) hseparator,
      List.filter_eq_self.mpr hsome, List.map_map]
    exact List.map_congr_left fun pair _ => decodePair_encodePair pair

example : encode [("content", "a&b=c + d%\n")] = "content=a%26b%3Dc+%2B+d%25%0A".toList := by
  rfl

end Form

end Http

end PipelineLint
