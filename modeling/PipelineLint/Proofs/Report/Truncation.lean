import PipelineLint.Proofs.Answer.Reading
import PipelineLint.Proofs.Json.Extension
import PipelineLint.Proofs.Report.Limit

/-!
# Reports on answers that were cut

An answer that stops in the middle is no answer. It may stop inside a name, an escape, a number or a
value that is skipped, or behind a result that stands there in full: as long as the last bracket is
missing, nothing is printed and there is no verdict.

The answer is always a list or an object, and this is what decides it. A format in which the result
stood alone, as a number or a word, would not have the property, nor would one in which each line
were an answer of its own.

## Main results

* `report_of_isTruncated` — the report on an answer that was cut
-/

namespace PipelineLint

/-- An answer is a list or an object, in whichever way its parts are written. -/
theorem Answer.IsAnswer.isEnclosed {v : Json.Tree} {a : Answer} (h : IsAnswer v a) :
    v.IsEnclosed := by
  obtain ⟨hstands, -⟩ := h
  cases hstands with
  | members => exact .object _
  | places => exact .list _

/-- Of two answers, one of which begins with the other, the longer one has only white space more. -/
theorem Answer.not_isTruncated {body t : String} {a b : Answer} (h : parse body = .ok a)
    (h' : parse t = .ok b) : ¬ Json.IsTruncated t.toList body.toList := by
  obtain ⟨v, hv, -⟩ := parse_eq_ok_iff.mp h
  obtain ⟨w, hw, hanswer⟩ := parse_eq_ok_iff.mp h'
  exact hv.not_isTruncated hw hanswer.isEnclosed

/-- **An answer that was cut gives no verdict and prints nothing**, wherever it was cut. What is
told is what the reader has to complain about. -/
theorem report_of_isTruncated {body t : String} {answer : Answer}
    (hbody : Answer.parse body = .ok answer) (hcut : Json.IsTruncated t.toList body.toList) :
    ∃ e, Answer.parse t = .error e ∧
      ∀ path out, report path t out = (.error (.protocol path e.message), out) := by
  cases ht : Answer.parse t with
  | ok b => exact absurd hcut (Answer.not_isTruncated hbody ht)
  | error e => exact ⟨e, rfl, fun path out => report_of_refused ht out⟩

/-- The cut is behind the inner object, where the result is already known. -/
theorem report_of_isTruncated_behind_data :
    let body := "\x7b\"data\":\x7b\"result\":\"success\"\x7d\x7d\n"
    let t := "\x7b\"data\":\x7b\"result\":\"success\"\x7d"
    Answer.parse body = .ok ⟨some "success", []⟩ ∧ Json.IsTruncated t.toList body.toList ∧
      ∃ e, Answer.parse t = .error e ∧
        report "Jenkinsfile" t {} = (.error (.protocol "Jenkinsfile" e.message), {}) := by
  intro body t
  have hparse : Answer.parse "\x7b\"data\":\x7b\"result\":\"success\"\x7d\x7d\n" =
      .ok ⟨some "success", []⟩ := rfl
  have hcut : Json.IsTruncated t.toList body.toList :=
    ⟨t.toList, '\x7d', ['\n'], by simp [body, t], by decide, by simp [Json.blanks],
      List.prefix_rfl⟩
  obtain ⟨e, he, hreport⟩ := report_of_isTruncated hparse hcut
  exact ⟨hparse, hcut, e, he, hreport _ _⟩

end PipelineLint
