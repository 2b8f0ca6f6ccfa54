import Mathlib
import PipelineLint.Proofs.Report.Listing
import PipelineLint.Proofs.Text.Lines

/-!
# The lines of a report

A report prints one diagnostic after the other and a newline behind each, for readers that look at
one line at a time. Such a reader finds every diagnostic at the start of a line, under the path and
the position. Whether it finds the next one on the next line is up to the validator: severities and
messages are printed as they came, and a newline in them is a newline in the listing.

## What breaks a line

A message may echo a piece of the linted file, which has lines of its own, so newlines in messages
are kept. The path and the numbers hold none. A diagnostic then takes one line more than there are
newlines in its severity and its text, and a listing has as many lines as diagnostics exactly when
there are none at all.

## Main definitions

* `Diagnostic.newlines` — how many newlines are printed in the middle of a diagnostic
* `Diagnostic.lines` — the lines of a printed diagnostic

## Main results

* `Diagnostic.length_lines`, `Diagnostic.exists_lines_eq_cons` — how many lines a diagnostic takes,
  and how the first of them starts
* `report_lines` — the lines of a report
* `report_breaks_message` — one message on two lines
-/

namespace PipelineLint

namespace Diagnostic

/-- How many newlines are printed in the middle of a diagnostic. -/
def newlines (d : Diagnostic) : Nat := d.severity.toList.count '\n' + d.message.toList.count '\n'

/-- The lines of a diagnostic that is printed about the file `path`. -/
def lines (path : String) (d : Diagnostic) : List (List UInt8) :=
  (Text.splitAt (· == '\n') (d.render path).toList).map Text.Utf8.encode

/-- What stands before the severity in a diagnostic about the file `path`. -/
def place (path : String) (d : Diagnostic) : String := s!"{path}:{d.line}:{d.column}: "

theorem isLines_bytes (path : String) (d : Diagnostic) :
    Text.IsLines (d.bytes path) (d.lines path) := by
  rw [bytes, String.toList_append]
  exact Text.isLines_encode _

theorem toList_render (path : String) (d : Diagnostic) :
    (d.render path).toList =
      (d.place path).toList ++ (d.severity.toList ++ ": ".toList ++ d.message.toList) := by
  simp only [render, place, String.toList_append, toString, List.append_assoc]

theorem newline_notMem_place {path : String} (hpath : '\n' ∉ path.toList) (d : Diagnostic) :
    '\n' ∉ (d.place path).toList := by
  have hnumber (n : Nat) : '\n' ∉ n.repr.toList := fun hn => by
    rw [Nat.toList_repr] at hn
    exact absurd (Nat.isDigit_of_mem_toDigits (by omega) (by omega) hn) (by decide)
  have hcolons : '\n' ∉ ":".toList ∧ '\n' ∉ ": ".toList := by decide
  simp only [place, toString, String.toList_append, List.mem_append, not_or]
  exact ⟨⟨⟨⟨⟨hpath, hcolons.1⟩, hnumber _⟩, hcolons.1⟩, hnumber _⟩, hcolons.2⟩

theorem count_render {path : String} (hpath : '\n' ∉ path.toList) (d : Diagnostic) :
    (d.render path).toList.count '\n' = d.newlines := by
  have hplace := List.count_eq_zero.mpr (newline_notMem_place hpath d)
  have hcolon : ": ".toList.count '\n' = 0 := rfl
  simp only [toList_render, List.count_append, hplace, hcolon, newlines]
  omega

theorem length_lines {path : String} (hpath : '\n' ∉ path.toList) (d : Diagnostic) :
    (d.lines path).length = d.newlines + 1 := by
  rw [lines, List.length_map, Text.length_splitAt, ← count_render hpath]
  rfl

/-- The first line of a diagnostic tells the place, and starts with it. -/
theorem exists_lines_eq_cons {path : String} (hpath : '\n' ∉ path.toList) (d : Diagnostic) :
    ∃ first more, d.lines path = first :: more ∧
      Text.Utf8.encode (d.place path).toList <+: first := by
  have hplace : Text.newline ∉ Text.Utf8.encode (d.place path).toList := by
    rw [Text.newline_mem_encode_iff]
    exact newline_notMem_place hpath d
  have hrest := Text.isLines_encode (d.severity.toList ++ ": ".toList ++ d.message.toList)
  cases hlines : (Text.splitAt (· == '\n')
      (d.severity.toList ++ ": ".toList ++ d.message.toList)).map Text.Utf8.encode with
  | nil =>
    have hlength := congrArg List.length hlines
    rw [List.length_map, Text.length_splitAt] at hlength
    cases hlength
  | cons first more =>
    rw [hlines] at hrest
    have hlisted : Text.IsLines (d.bytes path)
        ((Text.Utf8.encode (d.place path).toList ++ first) :: more) := by
      rw [bytes, String.toList_append, toList_render, List.append_assoc, Text.Utf8.encode_append]
      exact hrest.extend hplace
    exact ⟨_, more, (isLines_bytes path d).unique hlisted, List.prefix_append _ _⟩

/-- A rendered diagnostic is one line exactly when no newline is in its middle. -/
theorem newline_notMem_render_iff {path : String} (hpath : '\n' ∉ path.toList) {d : Diagnostic} :
    Text.newline ∉ Text.Utf8.encode (d.render path).toList ↔ d.newlines = 0 := by
  rw [Text.newline_mem_encode_iff, ← count_render hpath, List.count_eq_zero]

theorem lines_eq_singleton {path : String} (hpath : '\n' ∉ path.toList) {d : Diagnostic}
    (h : d.newlines = 0) : d.lines path = [Text.Utf8.encode (d.render path).toList] := by
  have hline := (newline_notMem_render_iff hpath).mpr h
  refine (isLines_bytes path d).unique ?_
  rw [bytes, String.toList_append, Text.Utf8.encode_append]
  exact .cons hline .nil

end Diagnostic

section

variable {path : String} {ds : List Diagnostic}

theorem length_flatMap_lines (hpath : '\n' ∉ path.toList) :
    (ds.flatMap (·.lines path)).length = ds.length + (ds.map (·.newlines)).sum := by
  induction ds with
  | nil => rfl
  | cons d ds ih =>
    simp only [List.flatMap_cons, List.length_append, d.length_lines hpath, ih, List.length_cons,
      List.map_cons, List.sum_cons]
    omega

/-- Every diagnostic stands on a line of its own exactly when no newline is in the middle of one. -/
theorem isLines_map_render_iff (hpath : '\n' ∉ path.toList) :
    Text.IsLines (ds.flatMap (·.bytes path))
        (ds.map fun d => Text.Utf8.encode (d.render path).toList) ↔
      ∀ d ∈ ds, d.newlines = 0 := by
  have hlines := Text.IsLines.flatMap fun d (_ : d ∈ ds) => d.isLines_bytes path
  constructor
  · rintro ⟨-, hunbroken⟩ d hd
    exact (Diagnostic.newline_notMem_render_iff hpath).mp (hunbroken _ (List.mem_map_of_mem hd))
  · intro h
    have hrender : ds.flatMap (·.lines path) =
        ds.map fun d => Text.Utf8.encode (d.render path).toList := by
      rw [List.map_eq_flatMap]
      exact List.flatMap_congr fun d hd => Diagnostic.lines_eq_singleton hpath (h d hd)
    rwa [← hrender]

end

/-- **The lines of a report.** Whatever the validator answers, a report prints whole lines and
nothing else. Each diagnostic of the listing starts a line with the path and its position, and takes
one line more than there are newlines in its severity and its text. So the lines are the rendered
diagnostics, one for each message, exactly when no severity and no text holds a newline. -/
theorem report_lines {path body : String} {answer : Answer} {out : Sink}
    (hpath : '\n' ∉ path.toList) (h : Answer.parse body = .ok answer) (hout : out.room = none) :
    let listing := answer.diagnostics
    let lines := listing.flatMap (·.lines path)
    ∃ printed, (report path body out).2 = { out with written := out.written ++ printed } ∧
      (∀ ls, Text.IsLines printed ls ↔ ls = lines) ∧
      (∀ d ∈ listing, ∃ first more, d.lines path = first :: more ∧
        Text.Utf8.encode s!"{path}:{d.line}:{d.column}: ".toList <+: first ∧
        more.length = d.severity.toList.count '\n' + d.message.toList.count '\n' ∧
        Text.IsLines (Text.Utf8.encode (d.render path ++ "\n").toList) (first :: more)) ∧
      listing.length = answer.messages.length ∧
      (lines.length = answer.messages.length ↔
        ∀ d ∈ listing, '\n' ∉ d.severity.toList ∧ '\n' ∉ d.message.toList) ∧
      (Text.IsLines printed (listing.map fun d => Text.Utf8.encode (d.render path).toList) ↔
        ∀ d ∈ listing, '\n' ∉ d.severity.toList ∧ '\n' ∉ d.message.toList) := by
  intro listing lines
  have hprinted : (report path body out).2 =
      { out with written := out.written ++ listing.flatMap (·.bytes path) } := by
    obtain ⟨room, written⟩ := out
    subst hout
    rw [report_of_parse h]
    rfl
  have hlines : Text.IsLines (listing.flatMap (·.bytes path)) lines :=
    .flatMap fun d _ => d.isLines_bytes path
  have hlength : listing.length = answer.messages.length := by
    simp only [listing, Answer.diagnostics]
    rw [(Diagnostic.isListing_sort _).perm.length_eq, List.length_map]
  have hnone (d : Diagnostic) :
      d.newlines = 0 ↔ '\n' ∉ d.severity.toList ∧ '\n' ∉ d.message.toList := by
    rw [Diagnostic.newlines, Nat.add_eq_zero_iff, List.count_eq_zero, List.count_eq_zero]
  simp only [← hnone]
  refine ⟨_, hprinted, fun ls => ⟨fun h => h.unique hlines, ?_⟩, fun d _ => ?_, hlength, ?_,
    isLines_map_render_iff hpath⟩
  · rintro rfl
    exact hlines
  · obtain ⟨first, more, heq, hfirst⟩ := d.exists_lines_eq_cons hpath
    refine ⟨first, more, heq, hfirst, ?_, heq ▸ d.isLines_bytes path⟩
    have hcount := d.length_lines hpath
    rw [heq] at hcount
    exact Nat.succ.inj hcount
  · rw [length_flatMap_lines hpath, hlength]
    simp [List.sum_eq_zero_iff_forall_eq_nat]

/-- Two messages on three lines. The one for the later line of the file comes first in the answer,
and the other one holds a newline. -/
theorem report_lines_three :
    let body := "[[null,[\x7b\"error\":[\"b @ line 2, column 1.\",\"a\\nc\"]\x7d]]]"
    '\n' ∉ "J".toList ∧
    Answer.parse body =
      .ok ⟨none, [[("error", .many ["b @ line 2, column 1.", "a\nc"])]]⟩ ∧
    ({} : Sink).room = none ∧
    ∃ printed, (report "J" body {}).2 = { written := printed } ∧
      Text.IsLines printed
        (["J:1:1: error: a", "c", "J:2:1: error: b"].map fun line => Text.Utf8.encode line.toList) := by
  intro body
  have hpath : '\n' ∉ "J".toList := by decide
  have hparse : Answer.parse body =
      .ok ⟨none, [[("error", .many ["b @ line 2, column 1.", "a\nc"])]]⟩ := by cbv
  have hroom : ({} : Sink).room = none := rfl
  obtain ⟨printed, hprinted, hlines, -⟩ := report_lines hpath hparse hroom
  refine ⟨hpath, hparse, hroom, printed, hprinted, (hlines _).mpr ?_⟩
  cbv

/-- **A message may take two lines.** Here the answer holds one message, and the report of it has
two lines, of which the second one names neither a file nor a position. -/
theorem report_breaks_message :
    let body := "[[\"failure\",[\x7b\"error\":\"a\\nb\"\x7d]]]"
    let answer : Answer := ⟨some "failure", [[("error", .one "a\nb")]]⟩
    let written := (report "J" body {}).2.written
    '\n' ∉ "J".toList ∧ Answer.parse body = .ok answer ∧ answer.messages.length = 1 ∧
      Text.IsLines written [Text.Utf8.encode "J:1:1: error: a".toList, Text.Utf8.encode "b".toList] ∧
      (∀ ls, Text.IsLines written ls → ls.length ≠ answer.messages.length) ∧
      ¬ Text.IsLines written
        (answer.diagnostics.map fun d => Text.Utf8.encode (d.render "J").toList) := by
  intro body answer written
  have hlines : Text.IsLines written
      [Text.Utf8.encode "J:1:1: error: a".toList, Text.Utf8.encode "b".toList] := by
    refine ⟨?_, by decide⟩
    dsimp only [written, body]
    cbv
  have hlength (ls : List (List UInt8)) (h : Text.IsLines written ls) :
      ls.length ≠ answer.messages.length := by
    rw [h.unique hlines]
    decide
  refine ⟨by decide, by cbv, by decide, hlines, hlength, fun h => hlength _ h ?_⟩
  cbv

end PipelineLint
