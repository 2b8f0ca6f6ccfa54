import PipelineLint.Proofs.Diagnostic.Message

/-!
# Echoes of arbitrary content

The content that a message echoes is a file that somebody wrote. It may hold the words that close an
echo, or end in the words of a location. Neither misleads the reading of a message, as long as the
validator does not repeat the closing words behind the echo.

## What keeps the two steps apart

The location is taken first, and it is taken from the end of the message. No location holds the
letter `t`, in which the closing words end, so that it begins behind them: it is the location of
what the validator says after the echo. The echo reaches to the last closing words. These words
cannot overlap themselves, for their quote stands at their start only, so that an echo that went
further would find them in what follows.

## Main results

* `Diagnostic.Places.append` — a location is found behind the closing words
* `Diagnostic.IsEcho.length_le` — an echo ends at the closing words that nothing repeats
* `Diagnostic.ofMessage_echo` — a message with an echo, and a message without one
-/

namespace PipelineLint.Diagnostic

/-! ## Locations behind a word -/

theorem IsLocation.t_notMem {s line column : List Char} (h : IsLocation s line column) :
    't' ∉ s := by
  have hblank : Text.isBlank 't' ≠ true := by decide
  have hdigit : Text.isDecimalDigit 't' ≠ true := by decide
  obtain ⟨hcolon, hbefore, hafter, hline, hcolumn, hnewline⟩ := h
  simp only [List.mem_append, not_or]
  refine ⟨?_, fun h => hblank (hbefore _ h), by decide, fun h => hblank (hafter _ h),
    fun h => hdigit (hline.2 _ h), by decide, fun h => hdigit (hcolumn.2 _ h), by decide, ?_⟩
  · simp only [List.mem_cons, List.not_mem_nil, or_false] at hcolon
    rcases hcolon with rfl | rfl <;> decide
  · simp only [List.mem_cons, List.not_mem_nil, or_false] at hnewline
    rcases hnewline with rfl | rfl <;> decide

theorem LosesNewline.cons {c : Char} {raw kept : List Char} (h : LosesNewline raw kept)
    (hend : raw ≠ [] ∨ c ≠ '\n') : LosesNewline (c :: raw) (c :: kept) := by
  rcases h with rfl | ⟨rfl, hno⟩
  · exact .inl rfl
  · refine .inr ⟨rfl, fun hsuffix => ?_⟩
    rcases List.suffix_cons_iff.mp hsuffix with heq | hsuffix
    · obtain ⟨rfl, rfl⟩ := List.cons.inj heq
      exact hend.elim (fun hne => hne rfl) fun hne => hne rfl
    · exact hno hsuffix

/-- A message keeps its place when a character comes before it with which it is no location. -/
theorem Places.cons {c : Char} {raw : List Char} {located : Located} (h : Places raw located)
    (hc : ¬ ∃ line column, IsLocation (c :: raw) line column) (hend : raw ≠ [] ∨ c ≠ '\n') :
    Places (c :: raw) ⟨located.line, located.column, c :: located.text⟩ := by
  cases h with
  | located hp hlocation => exact .located ((isLeast_cons_iff hc).mpr hp) hlocation
  | bare hnone hkept => exact .bare (locations_cons_eq_empty hc hnone) (hkept.cons hend)

/-- Whatever comes before a `t`, the place of a message is the place of what follows the `t`. -/
theorem Places.append {raw : List Char} {located : Located} (h : Places raw located)
    (before : List Char) :
    Places (before ++ 't' :: raw)
      ⟨located.line, located.column, before ++ 't' :: located.text⟩ := by
  induction before with
  | nil =>
    exact h.cons (fun ⟨_, _, hlocation⟩ => hlocation.t_notMem List.mem_cons_self) (.inr (by decide))
  | cons b before ih =>
    refine ih.cons (fun ⟨_, _, hlocation⟩ => ?_) (.inl (by simp))
    exact hlocation.t_notMem (by simp)

/-- What is left of a message is its beginning. -/
theorem Places.text_prefix {raw : List Char} {located : Located} (h : Places raw located) :
    located.text <+: raw := by
  cases h with
  | located _ _ => exact List.take_prefix _ _
  | bare _ hkept =>
    rcases hkept with rfl | ⟨rfl, -⟩
    · exact List.prefix_append _ _
    · exact List.prefix_rfl

/-! ## The last closing words -/

/-- Closing words that begin inside closing words stand in what follows these. -/
theorem closing_infix_of_append_eq {c : Char} {before rest rest' : List Char}
    (h : "' did not".toList ++ rest = c :: before ++ ("' did not".toList ++ rest')) :
    "' did not".toList <:+: rest := by
  have htail : " did not".toList ++ rest = before ++ ("' did not".toList ++ rest') :=
    (List.cons.inj h).2
  rcases List.append_eq_append_iff.mp htail with ⟨_, rfl, hrest⟩ | ⟨inside, hinside, hrest⟩
  · rw [hrest]
    exact ⟨_, rest', List.append_assoc _ _ _⟩
  · cases inside with
    | nil =>
      rw [List.nil_append] at hrest
      exact ⟨[], rest', hrest⟩
    | cons q inside =>
      -- the quote would stand among the words behind it
      obtain rfl : '\'' = q := (List.cons.inj hrest).1
      have hquote : '\'' ∈ " did not".toList := by rw [hinside]; simp
      exact absurd hquote (by decide)

/-- An echo is no longer than up to closing words behind which there are none. -/
theorem IsEcho.length_le {s echoed echoed' rest rest' : List Char} (h : IsEcho s echoed rest)
    (hrest : ¬ "' did not".toList <:+: rest) (h' : IsEcho s echoed' rest') :
    echoed'.length ≤ echoed.length := by
  have heq := List.append_cancel_left (h.1.symm.trans h'.1)
  rcases List.append_eq_append_iff.mp heq with ⟨beyond, rfl, hbeyond⟩ | ⟨_, rfl, -⟩
  · cases beyond with
    | nil => rw [List.append_nil]
    | cons c beyond => exact absurd (closing_infix_of_append_eq hbeyond) hrest
  · rw [List.length_append]
    exact Nat.le_add_right _ _

/-! ## Messages with an echo -/

theorem IsEcho.closes {s echoed rest : List Char} (h : IsEcho s echoed rest) :
    "' did not".toList <:+: s := by
  rw [h.1, ← List.append_assoc]
  exact ⟨_, rest, List.append_assoc _ _ _⟩

theorem collapseEcho_eq_self {s : List Char} (h : ¬ ∃ echoed rest, IsEcho s echoed rest) :
    collapseEcho s = s :=
  (collapses_collapseEcho s).unique (.keep fun echoed rest hecho => h ⟨echoed, rest, hecho⟩)

theorem collapseEcho_of_isEcho {s echoed rest : List Char} (h : IsEcho s echoed rest)
    (hrest : ¬ "' did not".toList <:+: rest) :
    collapseEcho s = "Jenkinsfile did not".toList ++ rest :=
  (collapses_collapseEcho s).unique (.cut h fun _ _ h' => h.length_le hrest h')

/-- **A message with an echo, and a message without one.** Whatever content is echoed, the message
says the same as what follows the echo, at the same place, behind the words that stand for the echo.
A message that echoes nothing is left as it is once its location and its final newline are gone. -/
theorem ofMessage_echo (severity : String) :
    (∀ content rest : String, content ≠ "" → ¬ "' did not".toList <:+: rest.toList →
      ofMessage severity ("Jenkinsfile content '" ++ content ++ "' did not" ++ rest) =
        { ofMessage severity rest with
          message := "Jenkinsfile did not" ++ (ofMessage severity rest).message }) ∧
    ∀ raw : String, ∃ located, Places raw.toList located ∧
      ((¬ ∃ echoed after, IsEcho located.text echoed after) →
        ofMessage severity raw =
          ⟨located.line, located.column, severity, String.ofList located.text⟩) := by
  constructor
  · intro content rest hcontent hrest
    have hplaces := places_ofMessage rest.toList
    generalize hlocated : Located.ofMessage rest.toList = located at hplaces
    let text := "Jenkinsfile content '".toList ++
      (content.toList ++ ("' did not".toList ++ located.text))
    have hplace : Located.ofMessage
        ("Jenkinsfile content '" ++ content ++ "' did not" ++ rest).toList =
          ⟨located.line, located.column, text⟩ := by
      have hbehind := hplaces.append
        ("Jenkinsfile content '".toList ++ (content.toList ++ "' did no".toList))
      refine (places_ofMessage _).unique ?_
      simpa [text] using hbehind
    have hnot : ¬ "' did not".toList <:+: located.text := fun hclosing =>
      hrest (hclosing.trans hplaces.text_prefix.isInfix)
    have hecho : IsEcho text content.toList located.text := ⟨rfl, by simpa using hcontent⟩
    have hplain : collapseEcho located.text = located.text :=
      collapseEcho_eq_self fun ⟨_, _, h⟩ => hnot h.closes
    simp only [ofMessage, hplace, hlocated, collapseEcho_of_isEcho hecho hnot, hplain,
      String.ofList_append, String.ofList_toList]
  · intro raw
    refine ⟨Located.ofMessage raw.toList, places_ofMessage _, fun hnone => ?_⟩
    rw [ofMessage, collapseEcho_eq_self hnone]

/-- The echoed file ends in a location and imitates the closing words. -/
example : ofMessage "error"
      "Jenkinsfile content 'a' did not @ line 3, column 4.\n' did not end: @ line 1, column 2." =
    ⟨1, 2, "error", "Jenkinsfile did not end"⟩ := by
  rfl

end PipelineLint.Diagnostic
