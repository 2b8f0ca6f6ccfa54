import PipelineLint.Proofs.Answer.Reading
import PipelineLint.Proofs.Report.Listing

/-!
# What a report prints

A report prints what stands in the validator's answer: every message under its severity, placed by
the position that the message names, in the one order that ascends by line and otherwise keeps the
order of the answer. Nothing of this depends on the verdict, and the verdict on nothing of this.

## From the text to the pairs

The pairs of severities and messages are read off the JSON value and not off the answer that the
reader builds, so that what gets lost or mixed up in building it would show. On that side texts are
code units.

## Main definitions

* `Answer.textsIn`, `Answer.pairsIn` — the messages of a severity, and of all entries
* `Answer.Holds` — the pairs that an answer's value holds

## Main results

* `Answer.IsAnswer.holds` — building an answer neither loses nor reorders a message
* `report_eq` — what is printed, and the verdict
-/

namespace PipelineLint

namespace Answer

open Json

/-- The messages that a value stands for: a string is one message, and a list holds any number. -/
def textsIn : Tree → List (List Nat)
  | .string text => [text]
  | .list texts => texts.flatMap fun
    | .string text => [text]
    | _ => []
  | _ => []

/-- The severities and messages in a list of entries, in order: entry by entry, member by member,
message by message. -/
def pairsIn : Tree → List (List Nat × List Nat)
  | .list entries => entries.flatMap fun
    | .object ms => ms.flatMap fun (severity, texts) => (textsIn texts).map (severity, ·)
    | _ => []
  | _ => []

/-- The code units of a severity and a message. -/
def pairUnits (pair : String × String) : List Nat × List Nat :=
  (utf16 pair.1.toList, utf16 pair.2.toList)

/-- The severities and messages that an answer's value holds. Without `data` or without `errors`
there are none. -/
inductive Holds (v : Tree) (pairs : List (String × String)) : Prop
  | missing {datas} (h : Stands ["data"] v [datas]) (hdatas : datas = [] ∨ datas = [.null])
      (hpairs : pairs = [])
  | given {data results errorss} (h : Stands ["data"] v [[data]])
      (hdata : Stands ["result", "errors"] data [results, errorss])
      (hpairs : pairs.map pairUnits = errorss.flatMap pairsIn)

theorem textsIn_eq {v : Tree} {messages : Messages} (h : IsMessages v messages) :
    textsIn v = messages.toList.map fun text => utf16 text.toList := by
  cases h with
  | one h =>
    cases h
    rfl
  | many h =>
    rw [textsIn]
    induction h with
    | nil => rfl
    | cons htext _ ih =>
      cases htext
      rw [List.flatMap_cons, ih]
      rfl

theorem entry_pairs_eq {ms : List (List Nat × Tree)} {entry : Entry}
    (h : IsEntry (.object ms) entry) :
    (ms.flatMap fun (severity, texts) => (textsIn texts).map (severity, ·)) =
      (entry.flatMap fun (severity, messages) => messages.toList.map (severity, ·)).map
        pairUnits := by
  obtain ⟨h⟩ := h
  induction h with
  | nil => rfl
  | @cons m pair ms entry hpair _ ih =>
    obtain ⟨us, v⟩ := m
    obtain ⟨severity, messages⟩ := pair
    obtain ⟨hseverity, hmessages⟩ := hpair
    simp only at hseverity hmessages
    rw [List.flatMap_cons, List.flatMap_cons, List.map_append, ih, hseverity]
    dsimp only
    rw [textsIn_eq hmessages, List.map_map, List.map_map]
    rfl

theorem pairsIn_eq {v : Tree} {errors : List Entry} (h : IsErrors v errors) :
    pairsIn v = (errors.flatMap fun entry =>
      entry.flatMap fun (severity, messages) => messages.toList.map (severity, ·)).map
        pairUnits := by
  obtain ⟨h⟩ := h
  rw [pairsIn]
  induction h with
  | nil => rfl
  | cons hentry _ ih =>
    have hpairs := hentry
    cases hentry with
    | mk _ =>
      rw [List.flatMap_cons, List.flatMap_cons, List.map_append, ih, ← entry_pairs_eq hpairs]

/-- **Building an answer neither loses nor reorders a message.** -/
theorem IsAnswer.holds {v : Tree} {a : Answer} (h : IsAnswer v a) : Holds v a.messages := by
  obtain ⟨hstands, hdata⟩ := h
  cases hdata with
  | absent => exact .missing hstands (.inl rfl) rfl
  | null => exact .missing hstands (.inr rfl) rfl
  | given hdata =>
    obtain ⟨hfields, -, herrors⟩ := hdata
    refine .given hstands hfields ?_
    cases herrors with
    | absent => rfl
    | null => rfl
    | given herrors =>
      rw [List.flatMap_singleton, pairsIn_eq herrors]
      rfl

end Answer

/-- **What a report prints.** Whenever the text is an answer and the sink is large enough for
anything, the pairs that the answer holds are placed, put in the one listing order there is, and
printed line by line, whatever the verdict. The verdict is the answer's result, or an error when it
has none. -/
theorem report_eq {path body : String} {answer : Answer} {out : Sink}
    (h : Answer.parse body = .ok answer) (hout : out.room = none) :
    ∃ v pairs listing, Json.Document body.toList v ∧ Answer.IsAnswer v answer ∧
      Answer.Holds v pairs ∧
      Diagnostic.IsListing (pairs.map fun (severity, raw) => .ofMessage severity raw) listing ∧
      (∀ other, Diagnostic.IsListing (pairs.map fun (severity, raw) => .ofMessage severity raw)
        other → other = listing) ∧
      report path body out =
        (match answer.result with
          | some result => .ok (result == "success")
          | none => .error (.protocol path "missing `data.result`"),
        { out with
          written := out.written ++ listing.flatMap fun d => Text.Utf8.encode
            s!"{path}:{d.line}:{d.column}: {d.severity}: {d.message}\n".toList }) := by
  obtain ⟨v, hv, hanswer⟩ := Answer.parse_eq_ok_iff.mp h
  have hlisting := Diagnostic.isListing_sort (answer.messages.map fun (severity, raw) =>
    Diagnostic.ofMessage severity raw)
  refine ⟨v, answer.messages, answer.diagnostics, hv, hanswer, hanswer.holds, hlisting,
    fun other hother => hother.unique hlisting, ?_⟩
  have hbytes : answer.diagnostics.flatMap (·.bytes path) = answer.diagnostics.flatMap fun d =>
      Text.Utf8.encode s!"{path}:{d.line}:{d.column}: {d.severity}: {d.message}\n".toList := rfl
  rw [report_of_parse h, hbytes]
  obtain ⟨room, written⟩ := out
  subst hout
  rfl

/-- Two messages, of which the one for the later line comes first. -/
theorem report_eq_two_messages :
    let body := "[[\"failure\",[\x7b\"error\":[\"b @ line 2, column 1.\",\"a\"]\x7d]]]"
    Answer.parse body =
      .ok ⟨some "failure", [[("error", .many ["b @ line 2, column 1.", "a"])]]⟩ ∧
    ({} : Sink).room = none ∧
    ∃ (v : Json.Tree) (pairs : List (String × String)) (listing : List Diagnostic),
      Json.Document body.toList v ∧ Answer.Holds v pairs ∧
      Diagnostic.IsListing (pairs.map fun (severity, raw) => .ofMessage severity raw) listing ∧
      report "Jenkinsfile" body {} =
        (.ok false, { written := listing.flatMap (·.bytes "Jenkinsfile") }) := by
  have hparse : Answer.parse
      "[[\"failure\",[\x7b\"error\":[\"b @ line 2, column 1.\",\"a\"]\x7d]]]" =
      .ok ⟨some "failure", [[("error", .many ["b @ line 2, column 1.", "a"])]]⟩ := by
    cbv
  obtain ⟨v, pairs, listing, hv, -, hpairs, hlisting, -, hreport⟩ :=
    @report_eq "Jenkinsfile" _ _ {} hparse rfl
  exact ⟨hparse, rfl, v, pairs, listing, hv, hpairs, hlisting, hreport⟩

end PipelineLint
