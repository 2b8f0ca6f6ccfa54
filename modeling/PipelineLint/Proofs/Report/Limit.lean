import PipelineLint.Proofs.Report.Listing

/-!
# Reports that do not fit

A sink may fill up while a report is written to it. Where that happens is a matter of bytes and not
of lines: what stays is the beginning of what a sink without a limit would hold, up to the byte, and
it may end inside a path, a number or a character.

## Which failure is told

A report may have to tell that its listing was cut, and that the answer has no result. The first is
noticed while the listing is written and ends the report, so it is told alone. A listing that fills
the sink to its last byte is whole, and nothing is lost then. An answer that cannot be read has no
listing, so that no limit is ever reached.

## Main results

* `report_of_refused`, `report_unlimited`, `report_of_parse_limited` — a report, as its answer and
  its sink have it
* `report_limited` — a report to a limited sink, against the same report to an unlimited one
-/

namespace PipelineLint

/-- What an answer says about a file is never that a sink is full. -/
theorem Answer.verdict_ne_io (a : Answer) (path file : String) (cause : IoError) :
    a.verdict path ≠ .error (.io file cause) := by
  rw [verdict]
  cases a.result with
  | none => simp
  | some result => simp

section

variable {path body : String}

/-- An answer that cannot be read leaves every sink as it is. -/
theorem report_of_refused {e : Json.Error} (h : Answer.parse body = .error e) (out : Sink) :
    report path body out = (.error (.protocol path e.message), out) := by
  simp only [report, h]

/-- A sink without a limit takes the whole listing of an answer. -/
theorem report_unlimited {answer : Answer} (h : Answer.parse body = .ok answer) :
    report path body {} =
      (answer.verdict path, { written := answer.diagnostics.flatMap (·.bytes path) }) := by
  rw [report_of_parse h]
  rfl

/-- A sink with a limit takes the beginning of the listing, and only the whole of it leads to the
answer's verdict. -/
theorem report_of_parse_limited {answer : Answer} (h : Answer.parse body = .ok answer) (n : Nat)
    (written : List UInt8) :
    let listing := answer.diagnostics.flatMap (·.bytes path)
    report path body ⟨some n, written⟩ =
      (if listing.length ≤ n then answer.verdict path else .error (.io path .sinkFull),
        ⟨some (n - listing.length), written ++ listing.take n⟩) := by
  intro listing
  rw [report_of_parse h, Sink.write]
  by_cases hfits : listing.length ≤ n
  · simp only [listing] at hfits ⊢
    simp only [hfits, decide_true, if_true]
  · simp only [listing] at hfits ⊢
    simp only [hfits, decide_false, if_false]

end

/-- **A report to a limited sink.** It leaves as much as fits of what the same report leaves in a
sink without a limit. It fails for want of room exactly when something is lost, whatever else it
would have said, and else it says the same. Nothing is written for an answer that cannot be read. -/
theorem report_limited (path body : String) (n : Nat) (written : List UInt8) :
    let full := report path body {}
    let listing := full.2.written
    let limited := report path body ⟨some n, written⟩
    limited.2.written = written ++ listing.take (min n listing.length) ∧
      ((∃ file cause, limited.1 = .error (.io file cause)) ↔ n < listing.length) ∧
      (n < listing.length → limited.1 = .error (.io path .sinkFull)) ∧
      (listing.length ≤ n → limited.1 = full.1) ∧
      ∀ e, Answer.parse body = .error e →
        listing = [] ∧ limited = (.error (.protocol path e.message), ⟨some n, written⟩) := by
  intro full listing limited
  have htake : listing.take (min n listing.length) = listing.take n := by
    rw [← List.take_take, List.take_length]
  rw [htake]
  cases hparse : Answer.parse body with
  | error e =>
    have hfull : full = (.error (.protocol path e.message), {}) := report_of_refused hparse _
    have hlimited : limited = (.error (.protocol path e.message), ⟨some n, written⟩) :=
      report_of_refused hparse _
    have hlisting : listing = [] := by simp only [listing, hfull]
    rw [hlisting, hlimited, hfull]
    refine ⟨by simp, by simp, by simp, by simp, fun e' he' => ?_⟩
    cases he'
    exact ⟨rfl, rfl⟩
  | ok answer =>
    have hfull : full = (answer.verdict path, { written := listing }) := by
      have hunlimited : report path body {} = _ := report_unlimited hparse
      simp only [listing, full, hunlimited]
    have hlimited : limited = (if listing.length ≤ n then full.1 else .error (.io path .sinkFull),
        ⟨some (n - listing.length), written ++ listing.take n⟩) := by
      have hunlimited : report path body {} = _ := report_unlimited hparse
      simp only [limited, listing, full, hunlimited]
      exact report_of_parse_limited hparse n written
    rw [hlimited]
    refine ⟨rfl, ⟨?_, ?_⟩, ?_, ?_, fun e he => by cases he⟩
    · rintro ⟨file, cause, hio⟩
      by_cases hfits : listing.length ≤ n
      · rw [if_pos hfits, hfull] at hio
        exact absurd hio (answer.verdict_ne_io path file cause)
      · exact Nat.lt_of_not_le hfits
    · intro hlost
      exact ⟨path, .sinkFull, if_neg (Nat.not_le_of_lt hlost)⟩
    · intro hlost
      exact if_neg (Nat.not_le_of_lt hlost)
    · intro hfits
      exact if_pos hfits

/-- The sink is full inside the character `é`, and the missing result is not told. -/
example : (report "f" "\x7b\"data\":\x7b\"errors\":[\x7b\"e\":\"é\"\x7d]\x7d\x7d" ⟨some 10, []⟩) =
    (.error (.io "f" .sinkFull),
      ⟨some 0, [0x66, 0x3A, 0x31, 0x3A, 0x31, 0x3A, 0x20, 0x65, 0x3A, 0x20]⟩) := by
  cbv

end PipelineLint
