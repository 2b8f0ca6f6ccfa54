import Mathlib.Tactic.SplitIfs
import PipelineLint.Profiles

/-!
# What a profile's settings are

Profiles are built up section by section, over all files that exist, and what a profile leaves open
is looked up only when it is asked for. Read from the other end there is nothing to build: all
entries of all files stand in one list, and a setting is the last entry of its key under the
profile's own name, or else under the name that every profile inherits from.

So a setting of the inherited section never replaces one of the profile, in whichever files the two
stand, and what is repeated counts once, for what it says last.

## Main definitions

* `Profiles.entriesIn` — all entries of sections, with the names that they stand under
* `Profiles.lastValue?` — what the last entry of a key under a name says
* `Profiles.IsSound` — a path where nothing stands, or a profile document without loose entries
* `Profiles.Tells`, `Profiles.Loaded` — profiles that say what sections and files say

## Main results

* `Profile.value?_setAll` — setting entries one by one is taking the last of each key
* `Profiles.Tells.addSection`, `Profiles.Loaded.loadMore` — one section more, and all files
* `Profiles.get_load` — the settings of every name
-/

namespace PipelineLint

/-! ## One profile -/

namespace Profile

/-- The keys that mean something. -/
def keys : List String := ["url", "username", "password"]

/-- What a profile says for a key. -/
def value? (p : Profile) (key : String) : Option String :=
  if key = "url" then p.url
  else if key = "username" then p.username
  else if key = "password" then p.password
  else none

theorem value?_set (p : Profile) (key value : String) {k : String} (hk : k ∈ keys) :
    (p.set key value).value? k = if keyForm key = k then some value else p.value? k := by
  simp only [keys, List.mem_cons, List.not_mem_nil, or_false] at hk
  simp only [set]
  split_ifs with hurl husername hpassword
  all_goals rcases hk with rfl | rfl | rfl
  all_goals simp_all [value?]

/-- What the last of the entries for a key says. -/
def lastOf (entries : List (String × String)) (key : String) : Option String :=
  (entries.filter (keyForm ·.1 = key)).getLast?.map (·.2)

/-- **Setting entries in their order keeps the last of each key.** -/
theorem value?_setAll (p : Profile) (entries : List (String × String)) {k : String}
    (hk : k ∈ keys) : (p.setAll entries).value? k = (lastOf entries k).or (p.value? k) := by
  induction entries generalizing p with
  | nil => rfl
  | cons entry entries ih =>
    obtain ⟨key, value⟩ := entry
    have hcons : p.setAll ((key, value) :: entries) = (p.set key value).setAll entries := rfl
    rw [hcons, ih, value?_set p key value hk]
    by_cases h : keyForm key = k
    · simp only [lastOf, List.filter_cons, h, decide_true, if_true, List.getLast?_cons]
      cases (entries.filter (keyForm ·.1 = k)).getLast? <;> rfl
    · simp [lastOf, h]

theorem value?_orElse (p fallback : Profile) {k : String} (hk : k ∈ keys) :
    (p.orElse fallback).value? k = (p.value? k).or (fallback.value? k) := by
  simp only [keys, List.mem_cons, List.not_mem_nil, or_false] at hk
  rcases hk with rfl | rfl | rfl
  all_goals simp [value?, orElse, Option.orElse_eq_or]

end Profile

namespace Profiles

/-! ## Many profiles -/

theorem lookup_cons_of_ne {name n : String} (h : name ≠ n) (p : Profile)
    (named : List (String × Profile)) : ((n, p) :: named).lookup name = named.lookup name := by
  rw [List.lookup_cons, beq_false_of_ne h]

theorem lookup_update (name other : String) (change : Profile → Profile)
    (named : List (String × Profile)) :
    (update name change named).lookup other =
      if other = name then some (change ((named.lookup name).getD {})) else named.lookup other := by
  induction named with
  | nil =>
    by_cases h : other = name
    · rw [if_pos h, h, update, List.lookup_cons_self]
      rfl
    · rw [if_neg h, update, lookup_cons_of_ne h]
  | cons first named ih =>
    obtain ⟨n, p⟩ := first
    rw [update]
    by_cases hn : n = name
    · subst hn
      rw [if_pos rfl, List.lookup_cons_self]
      by_cases h : other = n
      · rw [if_pos h, h, List.lookup_cons_self]
        rfl
      · rw [if_neg h, lookup_cons_of_ne h, lookup_cons_of_ne h]
    · rw [if_neg hn, lookup_cons_of_ne (Ne.symm hn)]
      by_cases h : other = n
      · rw [h, if_neg hn, List.lookup_cons_self, List.lookup_cons_self]
      · rw [lookup_cons_of_ne h, lookup_cons_of_ne h, ih]

/-- The entries that stand under a name. -/
def entriesUnder (sections : List Ini.Section) (name : String) : List (String × String) :=
  (sections.filter (·.name = some name)).flatMap (·.entries)

/-- A section with the name makes it a profile, unless it is the name that all inherit from. -/
def IsProfile (sections : List Ini.Section) (name : String) : Prop :=
  name ≠ defaultSection ∧ ∃ s ∈ sections, s.name = some name

theorem entriesUnder_append (sections more : List Ini.Section) (name : String) :
    entriesUnder (sections ++ more) name =
      entriesUnder sections name ++ entriesUnder more name := by
  rw [entriesUnder, List.filter_append, List.flatMap_append]
  rfl

theorem entriesUnder_of_ne {s : Ini.Section} {name : String} (h : s.name ≠ some name) :
    entriesUnder [s] name = [] := by
  simp [entriesUnder, h]

theorem entriesUnder_of_eq {s : Ini.Section} {name : String} (h : s.name = some name) :
    entriesUnder [s] name = s.entries := by
  simp [entriesUnder, h]

theorem isProfile_append_iff {sections : List Ini.Section} {s : Ini.Section} {name : String} :
    IsProfile (sections ++ [s]) name ↔
      IsProfile sections name ∨ name ≠ defaultSection ∧ s.name = some name := by
  simp only [IsProfile, List.mem_append, List.mem_singleton, or_and_right, exists_or,
    exists_eq_left, and_or_left]

/-- Profiles say what sections say. -/
structure Tells (ps : Profiles) (sections : List Ini.Section) : Prop where
  own : ∀ name, IsProfile sections name →
    ps.named.lookup name = some (Profile.setAll {} (entriesUnder sections name))
  missing : ∀ name, ¬ IsProfile sections name → ps.named.lookup name = none
  inherited : ps.defaults = Profile.setAll {} (entriesUnder sections defaultSection)

theorem tells_nil (path : String) : Tells { path } [] :=
  ⟨fun _ ⟨_, _, hs, _⟩ => absurd hs List.not_mem_nil, fun _ _ => rfl, rfl⟩

theorem setAll_append (p : Profile) (entries more : List (String × String)) :
    p.setAll (entries ++ more) = (p.setAll entries).setAll more :=
  List.foldl_append

/-- A profile that does not exist yet says as much as no entries do. -/
theorem Tells.getD_lookup {ps : Profiles} {sections : List Ini.Section} (h : Tells ps sections)
    {name : String} (hname : name ≠ defaultSection) :
    (ps.named.lookup name).getD {} = Profile.setAll {} (entriesUnder sections name) := by
  by_cases hprofile : IsProfile sections name
  · rw [h.own name hprofile]
    rfl
  · have hnone : sections.filter (·.name = some name) = [] := by
      refine List.filter_eq_nil_iff.mpr fun s hs hsname => hprofile ⟨hname, s, hs, ?_⟩
      simpa using hsname
    rw [h.missing name hprofile, entriesUnder, hnone]
    rfl

/-- What a section says under one name leaves all other names as they were. -/
theorem Tells.of_ne {ps : Profiles} {sections : List Ini.Section} (h : Tells ps sections)
    {s : Ini.Section} {name : String} (hs : name ≠ defaultSection → s.name ≠ some name) :
    (IsProfile (sections ++ [s]) name → ps.named.lookup name =
      some (Profile.setAll {} (entriesUnder (sections ++ [s]) name))) ∧
    (¬ IsProfile (sections ++ [s]) name → ps.named.lookup name = none) := by
  have hprofile : IsProfile (sections ++ [s]) name ↔ IsProfile sections name := by
    rw [isProfile_append_iff]
    exact or_iff_left fun ⟨hname, heq⟩ => hs hname heq
  rw [hprofile]
  refine ⟨fun hp => ?_, h.missing name⟩
  rw [entriesUnder_append, entriesUnder_of_ne (hs hp.1), List.append_nil]
  exact h.own name hp

theorem Tells.inherited_append {ps : Profiles} {sections : List Ini.Section}
    (h : Tells ps sections) {s : Ini.Section} (hs : s.name ≠ some defaultSection) :
    ps.defaults = Profile.setAll {} (entriesUnder (sections ++ [s]) defaultSection) := by
  rw [entriesUnder_append, entriesUnder_of_ne hs, List.append_nil]
  exact h.inherited

/-- What stands before the first header says nothing. -/
theorem Tells.addLoose {ps : Profiles} {sections : List Ini.Section} (h : Tells ps sections)
    {s : Ini.Section} (hname : s.name = none) : Tells ps (sections ++ [s]) := by
  have hother (name : String) : s.name ≠ some name := by simp [hname]
  exact ⟨fun name => (h.of_ne fun _ => hother name).1, fun name => (h.of_ne fun _ => hother name).2,
    h.inherited_append (hother _)⟩

theorem Tells.addDefaults {ps : Profiles} {sections : List Ini.Section} (h : Tells ps sections)
    {s : Ini.Section} (hname : s.name = some defaultSection) :
    Tells { ps with defaults := ps.defaults.setAll s.entries } (sections ++ [s]) := by
  have hother (name : String) (hne : name ≠ defaultSection) : s.name ≠ some name := by
    simpa [hname] using hne.symm
  refine ⟨fun name => (h.of_ne (hother name)).1, fun name => (h.of_ne (hother name)).2, ?_⟩
  rw [entriesUnder_append, entriesUnder_of_eq hname, setAll_append, ← h.inherited]

theorem Tells.addNamed {ps : Profiles} {sections : List Ini.Section} (h : Tells ps sections)
    {s : Ini.Section} {n : String} (hname : s.name = some n) (hn : n ≠ defaultSection) :
    Tells { ps with named := update n (·.setAll s.entries) ps.named } (sections ++ [s]) := by
  have hother {name : String} (hne : name ≠ n) : s.name ≠ some name := by
    simpa [hname] using hne.symm
  refine ⟨fun name hp => ?_, fun name hp => ?_, h.inherited_append (hother hn.symm)⟩
  · dsimp only
    rw [lookup_update]
    by_cases hne : name = n
    · subst hne
      rw [if_pos rfl, h.getD_lookup hn, entriesUnder_append, entriesUnder_of_eq hname,
        setAll_append]
    · rw [if_neg hne]
      exact (h.of_ne fun _ => hother hne).1 hp
  · dsimp only
    rw [lookup_update]
    by_cases hne : name = n
    · subst hne
      exact absurd (isProfile_append_iff.mpr (.inr ⟨hn, hname⟩)) hp
    · rw [if_neg hne]
      exact (h.of_ne fun _ => hother hne).2 hp

/-- **One section more.** -/
theorem Tells.addSection {ps : Profiles} {sections : List Ini.Section} (h : Tells ps sections)
    {s : Ini.Section} (hs : s.name = none → s.entries = []) :
    ∃ ps', ps.addSection s = .ok ps' ∧ ps'.path = ps.path ∧ Tells ps' (sections ++ [s]) := by
  rw [Profiles.addSection]
  cases hname : s.name with
  | none => exact ⟨ps, by simp [hs hname], rfl, h.addLoose hname⟩
  | some n =>
    dsimp only
    by_cases hn : n = defaultSection
    · subst hn
      rw [if_pos rfl]
      exact ⟨_, rfl, rfl, h.addDefaults hname⟩
    · rw [if_neg hn]
      exact ⟨_, rfl, rfl, h.addNamed hname hn⟩

theorem Tells.addSections {ps : Profiles} {sections more : List Ini.Section} (h : Tells ps sections)
    (hmore : ∀ s ∈ more, s.name = none → s.entries = []) :
    ∃ ps', ps.addSections more = .ok ps' ∧ ps'.path = ps.path ∧ Tells ps' (sections ++ more) := by
  induction more generalizing ps sections with
  | nil => exact ⟨ps, rfl, rfl, by rwa [List.append_nil]⟩
  | cons s more ih =>
    obtain ⟨ps₁, hadd, hpath, htells⟩ := h.addSection (hmore s List.mem_cons_self)
    obtain ⟨ps', hadd', hpath', htells'⟩ := ih htells fun t ht =>
      hmore t (List.mem_cons_of_mem _ ht)
    refine ⟨ps', ?_, hpath'.trans hpath, by simpa using htells'⟩
    rw [Profiles.addSections, hadd]
    exact hadd'

/-! ## Many files -/

end Profiles

/-- Something stands at the path. -/
def FileSystem.holds (files : FileSystem) (path : String) : Bool :=
  match files.readText path with
  | .error .noSuchFile => false
  | _ => true

namespace Profiles

variable (files : FileSystem)

/-- The sections of the file at a path, if it is a profile document. -/
def sectionsAt (path : String) : List Ini.Section :=
  match files.readText path with
  | .ok text => (Ini.parse text).toOption.getD []
  | .error _ => []

/-- Nothing stands at the path, or a profile document without entries before its first header. -/
inductive IsSound (path : String) : Prop
  | absent (h : files.readText path = .error .noSuchFile)
  | document {text sections} (h : files.readText path = .ok text)
      (hparse : Ini.parse text = .ok sections)
      (hloose : ∀ s ∈ sections, s.name = none → s.entries = [])

/-- What is known after the files of `read` are read, whose sections are `sections`. -/
def Loaded (ps : Option Profiles) (read : List String) (sections : List Ini.Section) : Prop :=
  match ps with
  | none => read = [] ∧ sections = []
  | some ps => read.getLast? = some ps.path ∧ Tells ps sections

variable {files} in
theorem Loaded.addFile {ps : Option Profiles} {read : List String}
    {sections more : List Ini.Section} (h : Loaded ps read sections) {text : String}
    (hparse : Ini.parse text = .ok more) (hmore : ∀ s ∈ more, s.name = none → s.entries = [])
    (path : String) :
    ∃ ps', addFile ps path text = .ok ps' ∧
      Loaded (some ps') (read ++ [path]) (sections ++ more) := by
  rw [Profiles.addFile, hparse]
  cases ps with
  | none =>
    obtain ⟨rfl, rfl⟩ := h
    obtain ⟨ps', hadd, hpath, htells⟩ := (tells_nil path).addSections hmore
    exact ⟨ps', hadd, by simp [hpath], htells⟩
  | some ps =>
    obtain ⟨-, htold⟩ := h
    have htold : Tells { ps with path } sections := ⟨htold.own, htold.missing, htold.inherited⟩
    obtain ⟨ps', hadd, hpath, htells⟩ := htold.addSections hmore
    exact ⟨ps', hadd, by simp [hpath], htells⟩

/-- **All files.** -/
theorem Loaded.loadMore {ps : Option Profiles} {read : List String} {sections : List Ini.Section}
    (h : Loaded ps read sections) {paths : List String}
    (hsound : ∀ path ∈ paths, IsSound files path) :
    ∃ ps', (loadMore files ps paths).value = .ok ps' ∧
      Loaded ps' (read ++ paths.filter files.holds)
        (sections ++ paths.flatMap (sectionsAt files)) := by
  induction paths generalizing ps read sections with
  | nil => exact ⟨ps, rfl, by simpa using h⟩
  | cons path paths ih =>
    have hsound' : ∀ path ∈ paths, IsSound files path :=
      fun p hp => hsound p (List.mem_cons_of_mem _ hp)
    rw [Profiles.loadMore]
    cases hsound path List.mem_cons_self with
    | absent habsent =>
      obtain ⟨ps', hload, hloaded⟩ := ih h hsound'
      refine ⟨ps', by rw [habsent]; exact hload, ?_⟩
      simpa [FileSystem.holds, sectionsAt, habsent] using hloaded
    | @document text more hread hparse hloose =>
      obtain ⟨ps₁, hadd, hloaded⟩ := h.addFile hparse hloose path
      obtain ⟨ps', hload, hloaded'⟩ := ih hloaded hsound'
      refine ⟨ps', ?_, ?_⟩
      · simp only [hread, Logged.value_bind, hadd]
        exact hload
      · simpa [FileSystem.holds, sectionsAt, hread, hparse, Except.toOption] using hloaded'

/-! ## Settings -/

/-- An entry, and the name that it stands under. -/
structure Entry where
  under : String
  key : String
  value : String
  deriving DecidableEq, Repr

/-- The entries of a section, in order. Those before the first header stand under no name. -/
def entriesOf (s : Ini.Section) : List Entry :=
  match s.name with
  | none => []
  | some name => s.entries.map fun (key, value) => ⟨name, key, value⟩

/-- All entries of sections, in order. -/
def entriesIn (sections : List Ini.Section) : List Entry := sections.flatMap entriesOf

/-- What the last entry of a key under a name says. -/
def lastValue? (entries : List Entry) (name key : String) : Option String :=
  (entries.filter fun e => e.under = name ∧ Profile.keyForm e.key = key).getLast?.map (·.value)

theorem filter_entriesOf (s : Ini.Section) (name key : String) :
    (entriesOf s).filter (fun e => e.under = name ∧ Profile.keyForm e.key = key) =
      ((entriesUnder [s] name).filter (Profile.keyForm ·.1 = key)).map fun (key, value) =>
        ⟨name, key, value⟩ := by
  rw [entriesOf]
  cases hname : s.name with
  | none => rw [entriesUnder_of_ne (by simp [hname])]; rfl
  | some n =>
    by_cases hn : n = name
    · subst hn
      rw [entriesUnder_of_eq hname, List.filter_map]
      simp [Function.comp_def]
    · rw [entriesUnder_of_ne (by simpa [hname] using hn)]
      refine List.filter_eq_nil_iff.mpr fun e he => ?_
      obtain ⟨entry, -, rfl⟩ := List.mem_map.mp he
      simp [hn]

theorem lastValue?_entriesIn (sections : List Ini.Section) (name key : String) :
    lastValue? (entriesIn sections) name key =
      Profile.lastOf (entriesUnder sections name) key := by
  have hentries : (entriesIn sections).filter (fun e =>
      e.under = name ∧ Profile.keyForm e.key = key) =
      ((entriesUnder sections name).filter (Profile.keyForm ·.1 = key)).map fun (key, value) =>
        ⟨name, key, value⟩ := by
    induction sections with
    | nil => rfl
    | cons s sections ih =>
      have hcons : entriesUnder (s :: sections) name =
          entriesUnder [s] name ++ entriesUnder sections name :=
        entriesUnder_append [s] sections name
      rw [entriesIn, List.flatMap_cons, List.filter_append, ← entriesIn, ih, filter_entriesOf,
        hcons, List.filter_append, List.map_append]
  rw [lastValue?, Profile.lastOf, hentries, List.getLast?_map, Option.map_map]
  rfl

/-- What a profile says for a key, with what it inherits. -/
theorem Tells.value?_orElse {ps : Profiles} {sections : List Ini.Section} (h : Tells ps sections)
    (name : String) {key : String} (hkey : key ∈ Profile.keys) :
    ((Profile.setAll {} (entriesUnder sections name)).orElse ps.defaults).value? key =
      (lastValue? (entriesIn sections) name key).or
        (lastValue? (entriesIn sections) defaultSection key) := by
  have hempty : ({} : Profile).value? key = none := by
    simp [Profile.value?]
  rw [Profile.value?_orElse _ _ hkey, h.inherited, Profile.value?_setAll _ _ hkey,
    Profile.value?_setAll _ _ hkey, hempty, Option.or_none, Option.or_none, lastValue?_entriesIn,
    lastValue?_entriesIn]

theorem Tells.get {ps : Profiles} {sections : List Ini.Section} (h : Tells ps sections)
    (name : String) :
    let found (key : String) := (lastValue? (entriesIn sections) name key).or
      (lastValue? (entriesIn sections) "DEFAULT" key)
    ps.get name =
      if name = "DEFAULT" ∨ ∀ s ∈ sections, s.name ≠ some name then
        .error (.missingProfile name ps.path)
      else
        match found "url" with
        | none | some "" => .error (.missingUrl name ps.path)
        | some url => .ok ⟨url, found "username", found "password"⟩ := by
  intro found
  by_cases hprofile : IsProfile sections name
  · have hnot : ¬ (name = "DEFAULT" ∨ ∀ s ∈ sections, s.name ≠ some name) := by
      obtain ⟨hname, s, hs, heq⟩ := hprofile
      exact not_or.mpr ⟨hname, fun hall => hall s hs heq⟩
    rw [if_neg hnot, Profiles.get, h.own name hprofile]
    dsimp only
    have hfound := @Tells.value?_orElse ps sections h name
    generalize (Profile.setAll {} (entriesUnder sections name)).orElse ps.defaults = p at hfound
    have hurl : p.url = found "url" := @hfound "url" (by decide)
    have husername : p.username = found "username" := @hfound "username" (by decide)
    have hpassword : p.password = found "password" := @hfound "password" (by decide)
    rw [hurl, husername, hpassword]
    cases found "url" with
    | none => rfl
    | some url =>
      by_cases hempty : url = ""
      · subst hempty
        rfl
      · simp [hempty]
  · have hmissing : name = "DEFAULT" ∨ ∀ s ∈ sections, s.name ≠ some name := by
      by_cases hname : name = "DEFAULT"
      · exact .inl hname
      · exact .inr fun s hs heq => hprofile ⟨hname, s, hs, heq⟩
    rw [if_pos hmissing, Profiles.get, h.missing name hprofile]

/-- **The settings of every name.** -/
theorem get_load {files : FileSystem} {paths : List String}
    (hexists : ∃ path ∈ paths, files.holds path = true)
    (hsound : ∀ path ∈ paths, IsSound files path) :
    let sections := paths.flatMap (sectionsAt files)
    let found (name key : String) :=
      (lastValue? (entriesIn sections) name key).or (lastValue? (entriesIn sections) "DEFAULT" key)
    ∃ ps last, (load files paths).value = .ok ps ∧
      (paths.filter files.holds).getLast? = some last ∧
      ∀ name, ps.get name =
        if name = "DEFAULT" ∨ ∀ s ∈ sections, s.name ≠ some name then
          .error (.missingProfile name last)
        else
          match found name "url" with
          | none | some "" => .error (.missingUrl name last)
          | some url => .ok ⟨url, found name "username", found name "password"⟩ := by
  intro sections found
  have hstart : Loaded none [] [] := ⟨rfl, rfl⟩
  obtain ⟨ps', hload, hloaded⟩ := hstart.loadMore files hsound
  rw [List.nil_append, List.nil_append] at hloaded
  cases ps' with
  | none =>
    obtain ⟨path, hpath, hholds⟩ := hexists
    have hmem : path ∈ paths.filter files.holds := List.mem_filter.mpr ⟨hpath, hholds⟩
    rw [hloaded.1] at hmem
    cases hmem
  | some ps =>
    obtain ⟨hlast, htells⟩ := hloaded
    refine ⟨ps, ps.path, ?_, hlast, htells.get⟩
    rw [load, Logged.value_bind, hload]
    rfl

/-- Two profile documents, of which the later one has the inherited section. -/
def twoDocuments : FileSystem where
  read path :=
    if path = "first" then .ok (Text.Utf8.encode "[ci]\nurl=a\nURL=b\n".toList)
    else if path = "second" then
      .ok (Text.Utf8.encode "[DEFAULT]\nurl=c\nusername=d\n[ci]\npassword=\n".toList)
    else .error .noSuchFile

theorem get_load_two_documents :
    let paths := ["first", "none", "second"]
    (∃ path ∈ paths, twoDocuments.holds path = true) ∧
      (∀ path ∈ paths, IsSound twoDocuments path) ∧
      ∃ ps, (load twoDocuments paths).value = .ok ps ∧
        ps.get "ci" = .ok ⟨"b", some "d", some ""⟩ ∧
        ps.get "DEFAULT" = .error (.missingProfile "DEFAULT" "second") := by
  intro paths
  have habsent : twoDocuments.readText "none" = .error .noSuchFile := rfl
  have hfirst : twoDocuments.readText "first" = .ok "[ci]\nurl=a\nURL=b\n" := rfl
  have hsecond : twoDocuments.readText "second" =
      .ok "[DEFAULT]\nurl=c\nusername=d\n[ci]\npassword=\n" := rfl
  have hparse : Ini.parse "[ci]\nurl=a\nURL=b\n" =
      .ok [⟨none, []⟩, ⟨some "ci", [("url", "a"), ("URL", "b")]⟩] := rfl
  have hparse' : Ini.parse "[DEFAULT]\nurl=c\nusername=d\n[ci]\npassword=\n" =
      .ok [⟨none, []⟩, ⟨some "DEFAULT", [("url", "c"), ("username", "d")]⟩,
        ⟨some "ci", [("password", "")]⟩] := rfl
  have hexists : ∃ path ∈ paths, twoDocuments.holds path = true :=
    ⟨"first", by simp [paths], by rw [FileSystem.holds, hfirst]⟩
  have hsound : ∀ path ∈ paths, IsSound twoDocuments path := by
    intro path hpath
    simp only [paths, List.mem_cons, List.not_mem_nil, or_false] at hpath
    rcases hpath with rfl | rfl | rfl
    · exact .document hfirst hparse (by simp)
    · exact .absent habsent
    · exact .document hsecond hparse' (by simp)
  obtain ⟨ps, last, hload, hlast, hget⟩ := get_load hexists hsound
  have hsections : paths.flatMap (sectionsAt twoDocuments) =
      [⟨none, []⟩, ⟨some "ci", [("url", "a"), ("URL", "b")]⟩, ⟨none, []⟩,
        ⟨some "DEFAULT", [("url", "c"), ("username", "d")]⟩, ⟨some "ci", [("password", "")]⟩] := by
    simp [paths, sectionsAt, hfirst, hsecond, habsent, hparse, hparse', Except.toOption]
  have hholds : paths.filter twoDocuments.holds = ["first", "second"] := by
    simp [paths, FileSystem.holds, hfirst, hsecond, habsent]
  obtain rfl : "second" = last := by simpa [hholds] using hlast
  rw [hsections] at hget
  exact ⟨hexists, hsound, ps, hload, (hget "ci").trans rfl, (hget "DEFAULT").trans rfl⟩

end Profiles

end PipelineLint
