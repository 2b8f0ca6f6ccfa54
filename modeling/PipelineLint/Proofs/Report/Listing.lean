import PipelineLint.Report

/-!
# The listing order and its printing

A listing puts diagnostics in an order and prints them one by one. Neither step is meant to choose
anything: the order is the only one that ascends by line and leaves the diagnostics of one line as
they came, and printing one by one is the same as writing all bytes at once.

## Why the order is stated by lines

Stability is about pairs of equal line, wherever they stand. Saying that the diagnostics of line `n`
are the same list before and after, for every `n`, says it of all those pairs together, and it is
what makes the arrangement unique: an ascending list is determined by its parts of one line each.

## Main definitions

* `Diagnostic.IsListing` — a list is another one, stably arranged by line
* `Diagnostic.bytes` — the bytes of a printed diagnostic, newline included
* `Sink.Takes` — a sink has room for bytes
* `Answer.verdict` — what an answer says about a file

## Main results

* `Diagnostic.isListing_sort`, `Diagnostic.IsListing.unique` — `sort` gives the one listing there is
* `printDiagnostics_eq_write`, `report_of_parse` — printing is one write
-/

namespace PipelineLint

namespace Diagnostic

/-! ## The order -/

/-- `listing` holds each of `ds` once, ascends by line and keeps the order of those of one line. -/
structure IsListing (ds listing : List Diagnostic) : Prop where
  perm : listing.Perm ds
  ascending : listing.Pairwise fun a b => a.line ≤ b.line
  stable : ∀ n, listing.filter (·.line == n) = ds.filter (·.line == n)

theorem isListing_sort (ds : List Diagnostic) : IsListing ds (sort ds) := by
  have htrans (a b c : Diagnostic) : decide (a.line ≤ b.line) → decide (b.line ≤ c.line) →
      decide (a.line ≤ c.line) := by
    simp only [decide_eq_true_eq]
    exact Nat.le_trans
  have htotal (a b : Diagnostic) : decide (a.line ≤ b.line) || decide (b.line ≤ a.line) := by
    simp only [Bool.or_eq_true, decide_eq_true_eq]
    exact Nat.le_total _ _
  have hperm : (sort ds).Perm ds := List.mergeSort_perm _ _
  refine ⟨hperm, ?_, fun n => ?_⟩
  · simpa only [sort, decide_eq_true_eq] using List.pairwise_mergeSort htrans htotal ds
  · have hone : (ds.filter (·.line == n)).Pairwise fun a b => decide (a.line ≤ b.line) := by
      refine List.pairwise_of_forall_mem_list fun a ha b hb => ?_
      have ha : a.line = n := by simpa using (List.mem_filter.mp ha).2
      have hb : b.line = n := by simpa using (List.mem_filter.mp hb).2
      simp [ha, hb]
    have hsub : (ds.filter (·.line == n)).Sublist (sort ds) :=
      List.sublist_mergeSort htrans htotal hone List.filter_sublist
    have hsub := hsub.filter (·.line == n)
    rw [List.filter_filter] at hsub
    simp only [Bool.and_self] at hsub
    exact (hsub.eq_of_length (hperm.filter _).length_eq.symm).symm

/-- An ascending list is determined by its parts of one line each. -/
theorem eq_of_ascending {xs ys : List Diagnostic} (hxs : xs.Pairwise fun a b => a.line ≤ b.line)
    (hys : ys.Pairwise fun a b => a.line ≤ b.line)
    (h : ∀ n, xs.filter (·.line == n) = ys.filter (·.line == n)) : xs = ys := by
  have hmem {xs ys : List Diagnostic}
      (h : ∀ n, xs.filter (·.line == n) = ys.filter (·.line == n)) {a : Diagnostic} (ha : a ∈ xs) :
      a ∈ ys := by
    have ha' : a ∈ xs.filter (·.line == a.line) := List.mem_filter.mpr ⟨ha, by simp⟩
    rw [h] at ha'
    exact (List.mem_filter.mp ha').1
  induction xs generalizing ys with
  | nil =>
    cases ys with
    | nil => rfl
    | cons b ys => cases hmem (fun n => (h n).symm) List.mem_cons_self
  | cons a xs ih =>
    cases ys with
    | nil => cases hmem h List.mem_cons_self
    | cons b ys =>
      obtain ⟨hleast, htail⟩ := List.pairwise_cons.mp hxs
      obtain ⟨hleast', htail'⟩ := List.pairwise_cons.mp hys
      have hline : a.line = b.line := by
        refine Nat.le_antisymm ?_ ?_
        · rcases List.mem_cons.mp (hmem (fun n => (h n).symm) List.mem_cons_self) with heq | hb
          · exact Nat.le_of_eq (congrArg _ heq.symm)
          · exact hleast b hb
        · rcases List.mem_cons.mp (hmem h List.mem_cons_self) with heq | ha
          · exact Nat.le_of_eq (congrArg _ heq.symm)
          · exact hleast' a ha
      obtain rfl : a = b := by
        have hfirst := h a.line
        simp only [List.filter_cons, hline, beq_self_eq_true, if_true] at hfirst
        exact (List.cons.inj hfirst).1
      refine congrArg _ (ih htail htail' fun n => ?_)
      have hn := h n
      by_cases ha : a.line == n
      · simp only [List.filter_cons, ha, if_true] at hn
        exact (List.cons.inj hn).2
      · simpa [List.filter_cons, ha] using hn

/-- **There is only one listing.** -/
theorem IsListing.unique {ds xs ys : List Diagnostic} (hxs : IsListing ds xs)
    (hys : IsListing ds ys) : xs = ys :=
  eq_of_ascending hxs.ascending hys.ascending fun n => (hxs.stable n).trans (hys.stable n).symm

/-! ## Printing -/

/-- What is printed for a diagnostic about the file `path`. -/
def bytes (path : String) (d : Diagnostic) : List UInt8 :=
  Text.Utf8.encode (d.render path ++ "\n").toList

end Diagnostic

namespace Sink

/-- All of `bytes` fit. -/
def Takes (out : Sink) (bytes : List UInt8) : Prop := ∀ n, out.room = some n → bytes.length ≤ n

theorem write_nil (out : Sink) : out.write [] = (true, out) := by
  obtain ⟨_ | n, written⟩ := out <;> simp [write]

/-- Writing two texts one after the other is writing them at once. -/
theorem write_append (out : Sink) (a b : List UInt8) :
    out.write (a ++ b) =
      match out.write a with
      | (true, out) => out.write b
      | (false, out) => (false, out) := by
  obtain ⟨_ | n, written⟩ := out
  · simp [write]
  · by_cases h : a.length ≤ n
    · have htake : (a ++ b).take n = a ++ b.take (n - a.length) := by
        rw [List.take_append, List.take_of_length_le h]
      have hfit : a.length + b.length ≤ n ↔ b.length ≤ n - a.length := by omega
      simp [write, h, htake, hfit, List.take_of_length_le h, Nat.sub_sub]
    · have htake : (a ++ b).take n = a.take n := by
        rw [List.take_append_of_le_length (by omega)]
      have hfit : ¬ a.length + b.length ≤ n := by omega
      have hroom : n - (a.length + b.length) = n - a.length := by omega
      simp [write, h, htake, hfit, hroom]

theorem fst_write_eq_true_iff {out : Sink} {bytes : List UInt8} :
    (out.write bytes).1 = true ↔ out.Takes bytes := by
  obtain ⟨_ | n, written⟩ := out <;> simp [write, Takes]

end Sink

/-- **Printing diagnostics one by one is writing all their lines at once.** -/
theorem printDiagnostics_eq_write (path : String) (ds : List Diagnostic) (out : Sink) :
    printDiagnostics path ds out = out.write (ds.flatMap (·.bytes path)) := by
  induction ds generalizing out with
  | nil => exact (out.write_nil).symm
  | cons d ds ih =>
    simp only [List.flatMap_cons, Sink.write_append, printDiagnostics, ih]
    rfl

/-! ## Reports -/

/-- What an answer says about the file `path`, once its diagnostics are printed. -/
def Answer.verdict (path : String) (a : Answer) : Except ValidationError Bool :=
  match a.result with
  | some result => .ok (result == "success")
  | none => .error (.protocol path "missing `data.result`")

/-- **A report writes the listing of an answer** and then gives the answer's verdict, unless the
listing does not fit. -/
theorem report_of_parse {path body : String} {answer : Answer} (h : Answer.parse body = .ok answer)
    (out : Sink) :
    report path body out =
      match out.write (answer.diagnostics.flatMap (·.bytes path)) with
      | (true, out) => (answer.verdict path, out)
      | (false, out) => (.error (.io path .sinkFull), out) := by
  rw [report, Answer.verdict]
  simp only [h, printDiagnostics_eq_write]
  generalize out.write (answer.diagnostics.flatMap (·.bytes path)) = written
  obtain ⟨_ | _, out'⟩ := written
  · rfl
  · cases answer.result with
    | none => rfl
    | some result => rfl

theorem Answer.verdict_eq_ok_true_iff (path : String) {a : Answer} :
    a.verdict path = .ok true ↔ a.result = some "success" := by
  rw [verdict]
  cases a.result with
  | none => simp
  | some result => simp

end PipelineLint
