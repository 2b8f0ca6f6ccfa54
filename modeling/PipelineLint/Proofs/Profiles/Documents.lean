import PipelineLint.Proofs.Ini.Written
import PipelineLint.Proofs.Profiles.Lookup
import PipelineLint.Proofs.Text.Utf8

/-!
# Profiles as they are written

Whoever writes a profile document expects to find in each profile what was written there. That is
so for every document, however its lines are laid out, as long as it leaves no backslash before
something that it must not bind: values may hold quotes, comment marks, separators and brackets, and
they are found character for character.

A value that ends in a single backslash is where this fails. Its line goes on, so the next line is
not what it seems, and what was to be a setting becomes part of another.

## Main results

* `Profiles.get_load_written` — the settings of every name in a document that was written
* `Profiles.url_swallowed` — a password with a backslash at its end hides the URL
-/

namespace PipelineLint.Profiles

open Ini

/-- A file with the encoding of a text is read as that text. -/
theorem readText_of_encode {files : FileSystem} {path : String} {text : List Char}
    (hread : files.read path = .ok (Text.Utf8.encode text)) :
    files.readText path = .ok (String.ofList text) := by
  simp only [FileSystem.readText, hread, Text.Utf8.decode_eq_ok_iff.mpr rfl]

/-- A single document is loaded with all of its sections. -/
theorem exists_load {files : FileSystem} {path text : String} {sections : List Section}
    (hread : files.readText path = .ok text) (hparse : parse text = .ok sections)
    (hloose : ∀ s ∈ sections, s.name = none → s.entries = []) :
    ∃ ps, (load files [path]).value = .ok ps ∧ ps.path = path ∧ Tells ps sections := by
  obtain ⟨ps, hadd, hpath, htells⟩ := (tells_nil path).addSections hloose
  have hfile : addFile none path text = .ok ps := by
    rw [addFile, hparse]
    exact hadd
  refine ⟨ps, ?_, hpath, htells⟩
  rw [load, Logged.value_bind, loadMore]
  simp only [hread, Logged.value_bind, hfile]
  rfl

/-- All entries that a document lists, each with the name that it stands under. -/
def entriesOn (sections : List Listing) : List Entry :=
  sections.flatMap fun (name, entries) => entries.map fun (key, value) => ⟨name, key, value⟩

theorem entriesIn_sectionsOf (sections : List Listing) :
    entriesIn (sectionsOf sections) = entriesOn sections := by
  rw [sectionsOf, entriesIn, List.flatMap_cons, List.flatMap_map]
  rfl

theorem eq_nil_of_mem_sectionsOf {sections : List Listing} {s : Section}
    (hs : s ∈ sectionsOf sections) (hname : s.name = none) : s.entries = [] := by
  rcases List.mem_cons.mp hs with rfl | hs
  · rfl
  · obtain ⟨listing, -, rfl⟩ := List.mem_map.mp hs
    cases hname

theorem forall_sectionsOf_iff {sections : List Listing} {name : String} :
    (∀ s ∈ sectionsOf sections, s.name ≠ some name) ↔ ∀ s ∈ sections, s.1 ≠ name := by
  rw [sectionsOf, List.forall_mem_cons, List.forall_mem_map]
  simp

/-- **The settings of every name in a document that was written.** -/
theorem get_load_written {files : FileSystem} {path : String} {text : List Char}
    {sections : List Listing} (hread : files.read path = .ok (Text.Utf8.encode text))
    (hwritten : Written (itemsOf sections) text) :
    let found (name key : String) :=
      (lastValue? (entriesOn sections) name key).or (lastValue? (entriesOn sections) "DEFAULT" key)
    ∃ ps, (load files [path]).value = .ok ps ∧
      ∀ name, ps.get name =
        if name = "DEFAULT" ∨ ∀ s ∈ sections, s.1 ≠ name then
          .error (.missingProfile name path)
        else
          match found name "url" with
          | none | some "" => .error (.missingUrl name path)
          | some url => .ok ⟨url, found name "username", found name "password"⟩ := by
  intro found
  obtain ⟨ps, hload, hpath, htells⟩ := exists_load (readText_of_encode hread)
    (parse_of_written hwritten) fun s hs => eq_nil_of_mem_sectionsOf hs
  refine ⟨ps, hload, fun name => ?_⟩
  rw [htells.get name, entriesIn_sectionsOf, hpath]
  simp only [forall_sectionsOf_iff]
  rfl

/-- A document with a comment, a blank line, two kinds of line ends, and values that hold a comment
mark, quotes, brackets and a backslash at the end. -/
def awkward : List Char :=
  "; where\n[a]\nURL = u#1\n\t\npassword:\"p\\\r\n[DEFAULT]\nusername==[b]".toList

theorem get_load_awkward :
    let sections : List Listing :=
      [("a", [("URL", "u#1"), ("password", "\"p\\")]), ("DEFAULT", [("username", "=[b]")])]
    Written (itemsOf sections) awkward ∧
      ∃ ps, (load ⟨fun _ => .ok (Text.Utf8.encode awkward)⟩ ["rc"]).value = .ok ps ∧
        ps.get "a" = .ok ⟨"u#1", some "=[b]", some "\"p\\"⟩ := by
  intro sections
  have hwritten : Written (itemsOf sections) awkward := by
    change Written _ (';' :: (" where".toList ++ (['\n'] ++ ('[' :: ("a".toList ++ ']' ::
      (['\n'] ++ ("URL".toList ++ ([' '] ++ '=' :: ([' '] ++ ("u#1".toList ++ (['\n'] ++
      (['\t'] ++ (['\n'] ++ ("password".toList ++ ([] ++ ':' :: ([] ++ ("\"p\\".toList ++
      (['\r', '\n'] ++ ('[' :: ("DEFAULT".toList ++ ']' :: (['\n'] ++ ("username".toList ++
      ([] ++ '=' :: ([] ++ ("=[b]".toList ++ ([] ++ []))))))))))))))))))))))))))
    refine .comment (.inr rfl) (by decide) .newline ?_
    refine .header ⟨by decide, rfl, rfl, rfl⟩ rfl .newline ?_
    refine .entry ⟨by decide, rfl⟩ rfl rfl rfl ⟨rfl, rfl, rfl⟩
      (fun _ => rfl) .newline ?_
    refine .blank rfl .newline ?_
    refine .entry ⟨by decide, rfl⟩ rfl rfl rfl ⟨rfl, rfl, rfl⟩
      (fun h => by cases h) .carriage ?_
    refine .header ⟨by decide, rfl, rfl, rfl⟩ rfl .newline ?_
    exact .entry ⟨by decide, rfl⟩ rfl rfl rfl ⟨rfl, rfl, rfl⟩
      (fun h => by cases h) .last .nil
  have hread : FileSystem.read ⟨fun _ => .ok (Text.Utf8.encode awkward)⟩ "rc" =
      .ok (Text.Utf8.encode awkward) := rfl
  obtain ⟨ps, hload, hget⟩ := get_load_written hread hwritten
  exact ⟨hwritten, ps, hload, (hget "a").trans rfl⟩

/-- A document with two settings, of which the first ends in a backslash. -/
def broken : List Char := "[a]\npassword = x\\\nurl = u\n".toList

/-- **A password with a backslash at its end hides the URL** in the line below it. -/
theorem url_swallowed :
    IsName "a" ∧ (IsKey "password" ∧ IsValue "x\\") ∧ (IsKey "url" ∧ IsValue "u") ∧
      ∃ ps, (load ⟨fun _ => .ok (Text.Utf8.encode broken)⟩ ["rc"]).value = .ok ps ∧
        ps.get "a" = .error (.missingUrl "a" "rc") := by
  have hname : IsName "a" := ⟨by decide, rfl, rfl, rfl⟩
  have hpassword : IsKey "password" := ⟨by decide, rfl⟩
  have hvalue : IsValue "x\\" := ⟨rfl, rfl, rfl⟩
  refine ⟨hname, ⟨hpassword, hvalue⟩, ⟨⟨by decide, rfl⟩, ⟨rfl, rfl, rfl⟩⟩, ?_⟩
  have hindent : [' '].all isIndent := rfl
  have hline : "url = u".toList.all (!isLineEnd ·) := rfl
  have hparse : parse (String.ofList broken) =
      .ok (sectionsOf [("a", [("password", "xurl = u")])]) :=
    parse_of_binds hname rfl hpassword hindent rfl hindent hvalue rfl hline rfl .newline .nil
  have hread : FileSystem.read ⟨fun _ => .ok (Text.Utf8.encode broken)⟩ "rc" =
      .ok (Text.Utf8.encode broken) := rfl
  obtain ⟨ps, hload, hpath, htells⟩ := exists_load (readText_of_encode hread) hparse
    fun s hs => eq_nil_of_mem_sectionsOf hs
  exact ⟨ps, hload, (htells.get "a").trans (by rw [hpath]; rfl)⟩

end PipelineLint.Profiles
