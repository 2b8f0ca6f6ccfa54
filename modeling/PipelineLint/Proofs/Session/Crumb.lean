import PipelineLint.Crumb
import PipelineLint.Proofs.Text.Runs

/-!
# What is read as a crumb

The answer of a crumb issuer is recognised by how it starts, letter case apart, and the crumb keeps
the letters as they were written. The start ends in a colon and holds no other one, and no blank. So
the name of a crumb is exactly what stands before that colon, and whatever the server answers, the
header of a crumb has only one name once it is in lower case. The value is what stands behind the
colon, whatever it holds, without the blanks around it.

## Bytes and characters

The start of an answer is looked for among its first bytes, and these may end inside a character, or
there may be too few of them. Nothing is read of such an answer, and nothing is lost by that: the
opening is made of characters of one byte each, and so is every text that agrees with it up to
letter case. An answer that has been recognised holds a colon, so that it can always be cut.

## Main definitions

* `Crumb.Opens` — a text starts as the issuer's answer does
* `Crumb.IsIn` — the crumb that a text holds

## Main results

* `Crumb.isAnswer_iff_opens`, `Crumb.exists_cut?_of_isAnswer` — which answers are recognised, and
  what they are cut into
* `Crumb.name_of_parse` — the name of a crumb
* `Crumb.parse_by_opening` — what is read of a text, and why nothing is
-/

namespace PipelineLint

namespace Text

variable {c : Char}

theorem toLower_eq_self (h : ¬ (0x41 ≤ c.toNat ∧ c.toNat ≤ 0x5A)) : c.toLower = c :=
  dif_neg h

theorem toLower_of_isBlank (h : isBlank c = true) : c.toLower = c := by
  refine toLower_eq_self fun hletter => ?_
  simp only [isBlank, Bool.or_eq_true, Bool.and_eq_true, decide_eq_true_eq, beq_iff_eq] at h
  omega

/-- A character that lower case changes is a capital letter, and has every property that the capital
letters have. -/
theorem toLower_eq_self_or {p : Char → Prop} (h : ∀ n < 26, p (Char.ofNat (0x41 + n))) (c : Char) :
    c.toLower = c ∨ p c := by
  by_cases hletter : 0x41 ≤ c.toNat ∧ c.toNat ≤ 0x5A
  · have hsum : 0x41 + (c.toNat - 0x41) = c.toNat := by omega
    have hc := h (c.toNat - 0x41) (by omega)
    rw [hsum, Char.ofNat_toNat] at hc
    exact .inr hc
  · exact .inl (toLower_eq_self hletter)

theorem eq_colon_of_toLower (h : c.toLower = ':') : c = ':' := by
  obtain hself | hne := toLower_eq_self_or (p := fun c => c.toLower ≠ ':') (by decide) c
  · exact hself.symm.trans h
  · exact absurd h hne

theorem utf8Size_toLower (c : Char) : c.toLower.utf8Size = c.utf8Size := by
  obtain hself | hsize :=
    toLower_eq_self_or (p := fun c => c.toLower.utf8Size = c.utf8Size) (by decide) c
  · rw [hself]
  · exact hsize

theorem length_encode_map_toLower (s : List Char) :
    (Utf8.encode (s.map Char.toLower)).length = (Utf8.encode s).length := by
  induction s with
  | nil => rfl
  | cons c s ih =>
    rw [List.map_cons, Utf8.length_encode_cons, Utf8.length_encode_cons, utf8Size_toLower, ih]

end Text

namespace Crumb

/-- The name of the header that bears a crumb, in lower case. -/
def lowerName : List Char := "jenkins-crumb".toList

theorem length_opening : (Text.Utf8.encode opening).length = 14 := rfl

/-- `s` starts as the issuer's answer does, letter case apart. -/
def Opens (s : List Char) : Prop :=
  ∃ start rest, s = start ++ rest ∧ start.map Char.toLower = opening

/-- **Which answers are recognised.** It makes no difference that bytes are looked at. -/
theorem isAnswer_iff_opens {s : List Char} : isAnswer s = true ↔ Opens s := by
  simp only [isAnswer, Option.any_eq_true, Text.Utf8.takeBytes?_eq_some_iff, beq_iff_eq]
  constructor
  · rintro ⟨start, ⟨⟨rest, rfl⟩, -⟩, hstart⟩
    exact ⟨start, rest, rfl, hstart⟩
  · rintro ⟨start, rest, rfl, hstart⟩
    refine ⟨start, ⟨List.prefix_append _ _, ?_⟩, hstart⟩
    rw [← hstart, Text.length_encode_map_toLower]

theorem exists_of_isAnswer {s : List Char} (h : isAnswer s = true) :
    ∃ name rest, s = name ++ ':' :: rest ∧ name.map Char.toLower = lowerName := by
  obtain ⟨start, rest, rfl, hopening⟩ := isAnswer_iff_opens.mp h
  have hopening : start.map Char.toLower = lowerName ++ [':'] := hopening
  obtain ⟨name, colon, rfl, hname, hcolon⟩ := List.map_eq_append_iff.mp hopening
  obtain ⟨c, rfl, hc⟩ : ∃ c, colon = [c] ∧ c.toLower = ':' := by
    simpa [List.map_eq_cons_iff] using hcolon
  obtain rfl := Text.eq_colon_of_toLower hc
  exact ⟨name, rest, by rw [List.append_assoc]; rfl, hname⟩

/-- A name that is the name of a crumb in lower case holds no colon and no blank. -/
theorem plain_of_map_toLower {name : List Char} (h : name.map Char.toLower = lowerName) :
    ∀ c ∈ name, c ≠ ':' ∧ Text.isBlank c = false := by
  intro c hc
  have hlower : c.toLower ∈ lowerName := h ▸ List.mem_map_of_mem hc
  refine ⟨?_, Bool.eq_false_iff.mpr fun hblank => ?_⟩
  · rintro rfl
    exact absurd hlower (by decide)
  · have hnone : lowerName.all (!Text.isBlank ·) = true := rfl
    rw [Text.toLower_of_isBlank hblank] at hlower
    simpa [hblank] using List.all_eq_true.mp hnone c hlower

/-- **What a recognised answer is cut into.** There is always a colon to cut it at, and it is the
one that ends the opening. -/
theorem exists_cut?_of_isAnswer {s : List Char} (h : isAnswer s = true) :
    ∃ name rest, Text.cut? ':' s = some (name, rest) ∧ s = name ++ ':' :: rest ∧
      name.map Char.toLower = lowerName := by
  obtain ⟨name, rest, hs, hname⟩ := exists_of_isAnswer h
  have hcolon : ':' ∉ name := fun hmem => (plain_of_map_toLower hname ':' hmem).1 rfl
  exact ⟨name, rest, Text.cut?_eq_some_iff.mpr ⟨hs, hcolon⟩, hs, hname⟩

/-- The crumb that `s` holds: its name is what starts `s`, as it is written there, and its value is
what follows the colon behind the name, without the blanks around it. -/
structure IsIn (crumb : Crumb) (s : List Char) : Prop where
  name_lower : crumb.name.toList.map Char.toLower = lowerName
  value : ∃ rest, s = crumb.name.toList ++ ':' :: rest ∧ Text.IsCore crumb.value.toList rest

section

variable {text url : String} {crumb : Crumb}

theorem parse_of_not_opens (h : ¬ Opens text.toList) :
    parse text url = .error (.crumbUnavailable url) := by
  rw [parse]
  exact if_neg fun hanswer => h (isAnswer_iff_opens.mp hanswer)

theorem IsIn.opens {s : List Char} (h : crumb.IsIn s) : Opens s := by
  obtain ⟨hname, rest, rfl, -⟩ := h
  refine ⟨crumb.name.toList ++ [':'], rest, by rw [List.append_assoc]; rfl, ?_⟩
  rw [List.map_append, hname]
  rfl

theorem exists_parse_of_isAnswer (url : String) (h : isAnswer text.toList = true) :
    ∃ name rest, text.toList = name ++ ':' :: rest ∧ name.map Char.toLower = lowerName ∧
      parse text url = .ok ⟨String.ofList name, String.ofList (Text.trim rest)⟩ := by
  obtain ⟨name, rest, hcut, htext, hname⟩ := exists_cut?_of_isAnswer h
  have hblank : ∀ c ∈ name, Text.isBlank c = false := fun c hc =>
    (plain_of_map_toLower hname c hc).2
  refine ⟨name, rest, htext, hname, ?_⟩
  simp only [parse, h, if_true, hcut, Text.trim_eq_self (Text.isTrimmed_of_forall hblank)]

theorem parse_eq_ok_iff : parse text url = .ok crumb ↔ crumb.IsIn text.toList := by
  by_cases hanswer : isAnswer text.toList = true
  · obtain ⟨name, rest, htext, hname, hparse⟩ := exists_parse_of_isAnswer url hanswer
    rw [hparse, Except.ok.injEq]
    constructor
    · rintro rfl
      refine ⟨by rwa [String.toList_ofList], rest, by rwa [String.toList_ofList], ?_⟩
      rw [String.toList_ofList]
      exact Text.isCore_trim rest
    · rintro ⟨hname', rest', htext', hcore⟩
      have hlength : name.length = crumb.name.toList.length := by
        rw [← List.length_map (f := Char.toLower), hname, ← hname', List.length_map]
      obtain ⟨rfl, htail⟩ := List.append_inj (htext.symm.trans htext') hlength
      obtain rfl : rest = rest' := (List.cons.inj htail).2
      rw [Text.trim_eq_iff.mpr hcore, String.ofList_toList, String.ofList_toList]
  · have hopens : ¬ Opens text.toList := fun h => hanswer (isAnswer_iff_opens.mpr h)
    rw [parse_of_not_opens hopens]
    exact iff_of_false nofun fun h => hopens h.opens

/-- **The name of a crumb** is the first part of the answer, which is the same for all crumbs,
letter case apart. -/
theorem name_of_parse (h : parse text url = .ok crumb) :
    (∃ rest, text.toList = crumb.name.toList ++ ':' :: rest) ∧
      crumb.name.toList.map Char.toLower = lowerName := by
  obtain ⟨hname, rest, htext, -⟩ := parse_eq_ok_iff.mp h
  exact ⟨⟨rest, htext⟩, hname⟩

end

/-- **What is read of a text, and why nothing is.** A text holds a crumb exactly when it starts as
the issuer's answer does. The crumb's name is then the start of the text without its colon, and its
value what follows that colon, trimmed. Any other text is refused on behalf of the server, whether
its first bytes say something else, are too few or end inside a character. A text that has been
recognised is never refused for want of a colon. -/
theorem parse_by_opening (text url : String) :
    let s := text.toList
    ((∃ crumb, parse text url = .ok crumb) ↔
      ∃ start rest, s = start ++ rest ∧ start.map Char.toLower = "jenkins-crumb:".toList) ∧
    (∀ crumb, parse text url = .ok crumb ↔
      crumb.name.toList = s.take 13 ∧
        crumb.name.toList.map Char.toLower = "jenkins-crumb".toList ∧
        (∀ c ∈ crumb.name.toList, c ≠ ':' ∧ Text.isBlank c = false) ∧
        ∃ rest, s = crumb.name.toList ++ ':' :: rest ∧ Text.IsCore crumb.value.toList rest) ∧
    ((∀ crumb, parse text url ≠ .ok crumb) →
      parse text url = .error (.crumbUnavailable url)) ∧
    ((Text.Utf8.encode s).length < 14 ∨
        (∃ before x after, s = before ++ x :: after ∧
          (Text.Utf8.encode before).length < 14 ∧
          14 < (Text.Utf8.encode (before ++ [x])).length) →
      parse text url = .error (.crumbUnavailable url)) ∧
    (isAnswer s = true → Text.cut? ':' s ≠ none) := by
  intro s
  have hopens : (∃ crumb, parse text url = .ok crumb) ↔ Opens s := by
    refine ⟨fun ⟨crumb, h⟩ => (parse_eq_ok_iff.mp h).opens, fun h => ?_⟩
    obtain ⟨name, rest, -, -, hparse⟩ :=
      exists_parse_of_isAnswer url (isAnswer_iff_opens.mpr h)
    exact ⟨_, hparse⟩
  refine ⟨hopens, fun crumb => ?_, fun h => ?_, fun h => ?_, fun h => ?_⟩
  · rw [parse_eq_ok_iff]
    constructor
    · rintro ⟨hname, rest, hs, hcore⟩
      have hlength : crumb.name.toList.length = 13 := by
        rw [← List.length_map (f := Char.toLower), hname]
        rfl
      refine ⟨?_, hname, plain_of_map_toLower hname, rest, hs, hcore⟩
      simp only [s, hs, ← hlength, List.take_left]
    · rintro ⟨-, hname, -, rest, hs, hcore⟩
      exact ⟨hname, rest, hs, hcore⟩
  · exact parse_of_not_opens fun hopen => (hopens.mpr hopen).elim h
  · have hnone : Text.Utf8.takeBytes? 14 s = none := Text.Utf8.takeBytes?_eq_none_iff.mpr h
    refine parse_of_not_opens fun hopen => ?_
    have hanswer : isAnswer s = true := isAnswer_iff_opens.mpr hopen
    rw [isAnswer, length_opening, hnone] at hanswer
    cases hanswer
  · obtain ⟨name, rest, hcut, -⟩ := exists_cut?_of_isAnswer h
    simp [s, hcut]

/-- The first 14 bytes end inside the character `é`. -/
example : parse "jenkins-crumbé:1" "u" = .error (.crumbUnavailable "u") := by decide

end Crumb

end PipelineLint
