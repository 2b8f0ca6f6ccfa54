import PipelineLint.Http.Message
import PipelineLint.Proofs.Text.Utf8

/-!
# What a body says

Whoever asks for the text of an answer depends on the reply in four ways. There may be no body, and
the body may have broken off; otherwise its bytes may be text in UTF-8, or anything else. `Reads`
has one rule for each of these, and what it says of text in UTF-8 is the text itself, with no
decoder in between.

## The mark

A byte order mark at the start of a body is no part of its text, and it outweighs the content type.
So a text in UTF-8 has two spellings. The one with the mark is always understood. The one without it
is understood as long as the answer names no other character set, and as long as the text does not
itself begin with the character that would be taken for the mark.

## Main definitions

* `Http.Received.IsBodiless` — an answer comes without a body
* `Http.Received.Reads` — what there is to read in an answer

## Main results

* `Http.decodeBody_encode`, `Http.decodeBody_encode_mark` — text in UTF-8 is read as it is
* `Http.Received.text_eq_iff` — the text of an answer is what there is to read
-/

namespace PipelineLint.Http

open Text

/-! ## Bytes -/

theorem encode_mark (s : List Char) :
    Utf8.encode ('\uFEFF' :: s) = 0xEF :: 0xBB :: 0xBF :: Utf8.encode s := Utf8.encode_cons _ _

/-- A body with the mark of UTF-8 is the text behind the mark, whatever else is said about it. -/
theorem decodeBody_encode_mark (decoder? : Option Decoder) (s : List Char) :
    decodeBody decoder? (Utf8.encode ('\uFEFF' :: s)) = s := by
  rw [encode_mark, decodeBody, Utf8.decodeLenient_encode]

/-- **A body of UTF-8 is its text**, when nothing in it looks like a mark. -/
theorem decodeBody_encode {s : List Char} (hs : s.head? ≠ some '\uFEFF') :
    decodeBody none (Utf8.encode s) = s := by
  have hpieces := Utf8.pieces_encode s
  rw [decodeBody.eq_def]
  split
  next rest hbytes =>
    have hmark := Utf8.pieces_utf8EncodeChar_append '\uFEFF' rest
    rw [hbytes] at hpieces
    cases s with
    | nil => cases hpieces.symm.trans hmark
    | cons x s =>
      obtain ⟨rfl, -⟩ : x = '\uFEFF' ∧ s.map .char = Utf8.pieces rest := by
        simpa using hpieces.symm.trans hmark
      exact absurd rfl hs
  next rest hbytes => exact absurd hbytes (Utf8.encode_ne_cons_of_never rfl)
  next rest hbytes => exact absurd hbytes (Utf8.encode_ne_cons_of_never rfl)
  next => exact Utf8.decodeLenient_encode s

/-! ## Answers -/

namespace Received

variable {server : Server} {r : Received} {outcome : Except Failure String}

/-- The answer comes without a body. -/
def IsBodiless (r : Received) : Prop :=
  r.request.method = "HEAD" ∨ r.response.status < 200 ∨ r.response.status = 204 ∨
    r.response.status = 304

theorem isBodiless_eq_true_iff :
    isBodiless r.request.method r.response.status = true ↔ r.IsBodiless := by
  simp [isBodiless, IsBodiless, or_assoc]

/-- What there is to read in an answer: its text, or the failure to read it. -/
inductive Reads (server : Server) (r : Received) : Except Failure String → Prop
  | bodiless (hnone : r.IsBodiless) : r.Reads server (.ok "")
  | brokenOff {detail} (hsome : ¬ r.IsBodiless) (hbody : r.response.body = .broken detail) :
      r.Reads server (.error (.brokenBody detail))
  /-- The body is text in UTF-8, behind a byte order mark or not. -/
  | utf8 {text bytes} (hsome : ¬ r.IsBodiless) (hbody : r.response.body = .whole bytes)
      (hbytes : bytes = Utf8.encode ('\uFEFF' :: text) ∨
        bytes = Utf8.encode text ∧ text.head? ≠ some '\uFEFF' ∧ r.decoder? server = none) :
      r.Reads server (.ok (String.ofList text))
  /-- The body is anything else. -/
  | decoded {bytes} (hsome : ¬ r.IsBodiless) (hbody : r.response.body = .whole bytes)
      (hbytes : ∀ text, bytes = Utf8.encode text →
        text.head? ≠ some '\uFEFF' ∧ r.decoder? server ≠ none) :
      r.Reads server (.ok (String.ofList (decodeBody (r.decoder? server) bytes)))

theorem text_of_bodiless (h : r.IsBodiless) : r.text server = .ok "" :=
  if_pos (isBodiless_eq_true_iff.mpr h)

theorem text_of_broken {detail : String} (hsome : ¬ r.IsBodiless)
    (hbody : r.response.body = .broken detail) : r.text server = .error (.brokenBody detail) := by
  rw [text, if_neg (mt isBodiless_eq_true_iff.mp hsome), hbody]

theorem text_of_whole {bytes : List UInt8} (hsome : ¬ r.IsBodiless)
    (hbody : r.response.body = .whole bytes) :
    r.text server = .ok (String.ofList (decodeBody (r.decoder? server) bytes)) := by
  rw [text, if_neg (mt isBodiless_eq_true_iff.mp hsome), hbody]

theorem Reads.text_eq (h : r.Reads server outcome) : r.text server = outcome := by
  cases h with
  | bodiless hnone => exact text_of_bodiless hnone
  | brokenOff hsome hbody => exact text_of_broken hsome hbody
  | utf8 hsome hbody hbytes =>
    rw [text_of_whole hsome hbody]
    obtain rfl | ⟨rfl, hhead, hset⟩ := hbytes
    · rw [decodeBody_encode_mark]
    · rw [hset, decodeBody_encode hhead]
  | decoded hsome hbody => exact text_of_whole hsome hbody

variable (server r) in
theorem reads_text : r.Reads server (r.text server) := by
  by_cases hnone : r.IsBodiless
  · exact text_of_bodiless hnone ▸ .bodiless hnone
  · cases hbody : r.response.body with
    | broken detail => exact text_of_broken hnone hbody ▸ .brokenOff hnone hbody
    | whole bytes =>
      rw [text_of_whole hnone hbody]
      by_cases hutf8 : ∃ s, bytes = Utf8.encode s ∧
          (s.head? = some '\uFEFF' ∨ r.decoder? server = none)
      · obtain ⟨s, rfl, hread⟩ := hutf8
        by_cases hmark : s.head? = some '\uFEFF'
        · obtain ⟨more, rfl⟩ := List.head?_eq_some_iff.mp hmark
          rw [decodeBody_encode_mark]
          exact .utf8 hnone hbody (.inl rfl)
        · have hset := hread.resolve_left hmark
          rw [hset, decodeBody_encode hmark]
          exact .utf8 hnone hbody (.inr ⟨rfl, hmark, hset⟩)
      · refine .decoded hnone hbody fun s hs => ?_
        exact not_or.mp fun hread => hutf8 ⟨s, hs, hread⟩

/-- **The text of an answer is what there is to read in it.** -/
theorem text_eq_iff : r.text server = outcome ↔ r.Reads server outcome := by
  constructor
  · rintro rfl
    exact reads_text server r
  · exact Reads.text_eq

end Received

end PipelineLint.Http
