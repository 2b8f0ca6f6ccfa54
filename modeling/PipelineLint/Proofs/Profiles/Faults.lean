import PipelineLint.Proofs.Profiles.Documents
import PipelineLint.Proofs.Settings.Sources

/-!
# Which error ends the reading of profiles

Files are read in their order, and the first one that is faulty ends the reading. So its fault is
the error, whatever stands in the files before and behind it, and nothing behind it is read at all.

A path where nothing stands is not faulty. It is passed over without a trace, and only when nothing
stands at any path is that an error, which then names all of them.

## What is recorded

A record is made once the text of a file is there, before anybody tries to understand it. A file
that is no profile document is therefore the last one recorded, and one that cannot be read is not
recorded at all.

## Main definitions

* `FileSystem.isText` — there is a file at the path, and it is text
* `Profiles.FaultAt` — what is wrong with the file at a path

## Main results

* `Profiles.isSound_iff` — a path is sound, or there is a fault at it
* `Profiles.FaultAt.loadMore` — a faulty file ends the reading
* `Profiles.load_by_first_fault` — error and records of every list of paths
-/

namespace PipelineLint

/-- There is a file at the path, and it is text. -/
def FileSystem.isText (files : FileSystem) (path : String) : Bool :=
  match files.readText path with
  | .ok _ => true
  | .error _ => false

namespace Profiles

/-- What is wrong with the file at a path, as the error that tells it. -/
inductive FaultAt (files : FileSystem) (path : String) : ConfigError → Prop
  | unreadable {cause : IoError} (hread : files.read path = .error cause)
      (hcause : cause ≠ .noSuchFile) : FaultAt files path (.read path cause)
  | notText {bytes : List UInt8} (hread : files.read path = .ok bytes)
      (htext : ∀ text, Text.Utf8.encode text ≠ bytes) : FaultAt files path (.read path .notText)
  | malformed {text : List Char} {e : Ini.Error}
      (hread : files.read path = .ok (Text.Utf8.encode text))
      (hparse : Ini.parse (String.ofList text) = .error e) : FaultAt files path (.parse path e)
  /-- The first section of a document holds the entries before its first header. -/
  | loose {text : List Char} {entries : List (String × String)} {named : List Ini.Section}
      (hread : files.read path = .ok (Text.Utf8.encode text))
      (hparse : Ini.parse (String.ofList text) = .ok (⟨none, entries⟩ :: named))
      (hentries : entries ≠ []) : FaultAt files path (.missingSectionHeader path)

variable {files files' : FileSystem} {path : String} {e : ConfigError}

theorem readText_of_error {cause : IoError} (hread : files.read path = .error cause) :
    files.readText path = .error cause := by
  simp only [FileSystem.readText, hread]

theorem readText_of_not_encode {bytes : List UInt8} (hread : files.read path = .ok bytes)
    (htext : ∀ text, Text.Utf8.encode text ≠ bytes) : files.readText path = .error .notText := by
  cases hdecode : Text.Utf8.decode bytes with
  | ok text => exact absurd (Text.Utf8.decode_eq_ok_iff.mp hdecode) (htext text)
  | error m => simp only [FileSystem.readText, hread, hdecode]

theorem readText_congr (h : files'.read path = files.read path) :
    files'.readText path = files.readText path := by
  rw [FileSystem.readText, FileSystem.readText, h]

/-! ## Faults and sound files -/

/-- **Each path is sound, or there is a fault at it.** -/
theorem isSound_or_faultAt (files : FileSystem) (path : String) :
    IsSound files path ∨ ∃ e, FaultAt files path e := by
  cases hread : files.read path with
  | error cause =>
    by_cases hcause : cause = .noSuchFile
    · exact .inl (.absent (readText_of_error (hcause ▸ hread)))
    · exact .inr ⟨_, .unreadable hread hcause⟩
  | ok bytes =>
    by_cases htext : ∃ text, Text.Utf8.encode text = bytes
    · obtain ⟨text, rfl⟩ := htext
      cases hparse : Ini.parse (String.ofList text) with
      | error e => exact .inr ⟨_, .malformed hread hparse⟩
      | ok sections =>
        obtain ⟨entries, named, rfl, hnamed⟩ := Ini.exists_of_parse hparse
        by_cases hentries : entries = []
        · refine .inl (.document (readText_of_encode hread) hparse fun s hs hname => ?_)
          rcases List.mem_cons.mp hs with rfl | hs
          · exact hentries
          · exact absurd hname (hnamed s hs)
        · exact .inr ⟨_, .loose hread hparse hentries⟩
    · exact .inr ⟨_, .notText hread (not_exists.mp htext)⟩

theorem addFile_of_loose (ps : Option Profiles) {text : String} {entries : List (String × String)}
    {named : List Ini.Section} (hparse : Ini.parse text = .ok (⟨none, entries⟩ :: named))
    (hentries : entries ≠ []) : addFile ps path text = .error (.missingSectionHeader path) := by
  have hempty : entries.isEmpty = false := by simpa using hentries
  rw [addFile, hparse]
  cases ps with
  | none => simp [addSections, addSection, hempty]
  | some ps => simp [addSections, addSection, hempty]

/-- A faulty file is no text, or its text is refused by whatever profiles it is added to. -/
theorem FaultAt.refused (h : FaultAt files path e) :
    (∃ cause, files.readText path = .error cause ∧ cause ≠ .noSuchFile ∧ e = .read path cause) ∨
      ∃ text, files.readText path = .ok text ∧ (∀ cause, e ≠ .read path cause) ∧
        ∀ ps, addFile ps path text = .error e := by
  cases h with
  | unreadable hread hcause => exact .inl ⟨_, readText_of_error hread, hcause, rfl⟩
  | notText hread htext => exact .inl ⟨_, readText_of_not_encode hread htext, by decide, rfl⟩
  | malformed hread hparse =>
    exact .inr ⟨_, readText_of_encode hread, by simp, fun ps => by rw [addFile, hparse]⟩
  | loose hread hparse hentries =>
    exact .inr ⟨_, readText_of_encode hread, by simp,
      fun ps => addFile_of_loose ps hparse hentries⟩

theorem FaultAt.isText_iff (h : FaultAt files path e) :
    files.isText path = true ↔ ∀ cause, e ≠ .read path cause := by
  rcases h.refused with ⟨cause, hread, -, rfl⟩ | ⟨text, hread, hne, -⟩
  · simp [FileSystem.isText, hread]
  · simp [FileSystem.isText, hread, hne]

/-- **A faulty file ends the reading.** It is recorded if it is text. -/
theorem FaultAt.loadMore (h : FaultAt files path e) (ps : Option Profiles) (after : List String) :
    Profiles.loadMore files ps (path :: after) =
      ⟨.error e, ([path].filter files.isText).map fun path =>
        ⟨.debug, s!"Reading configuration file {path}"⟩⟩ := by
  rcases h.refused with ⟨cause, hread, hcause, rfl⟩ | ⟨text, hread, -, hadd⟩
  · have hnot : ¬ files.isText path := by simp [FileSystem.isText, hread]
    rw [List.filter_cons_of_neg hnot]
    simp only [Profiles.loadMore, hread]
    rfl
  · have htext : files.isText path := by simp [FileSystem.isText, hread]
    rw [List.filter_cons_of_pos htext]
    simp only [Profiles.loadMore, hread, hadd]
    rfl

theorem holds_eq_false_iff : files.holds path = false ↔ files.read path = .error .noSuchFile := by
  cases hread : files.read path with
  | error cause =>
    rw [FileSystem.holds, readText_of_error hread]
    by_cases hcause : cause = .noSuchFile
    · simp [hcause]
    · simp [hcause]
  | ok bytes =>
    cases hdecode : Text.Utf8.decode bytes with
    | ok text => simp [FileSystem.holds, FileSystem.readText, hread, hdecode]
    | error m => simp [FileSystem.holds, FileSystem.readText, hread, hdecode]

theorem IsSound.isText_eq (h : IsSound files path) : files.isText path = files.holds path := by
  cases h with
  | absent habsent => simp only [FileSystem.isText, FileSystem.holds, habsent]
  | document hread hparse hloose => simp only [FileSystem.isText, FileSystem.holds, hread]

/-! ## Lists of files -/

theorem loadMore_cons_of_ok {ps : Option Profiles} {ps₁ : Profiles} {text : String}
    (hread : files.readText path = .ok text) (hadd : addFile ps path text = .ok ps₁)
    (more : List String) :
    loadMore files ps (path :: more) = ⟨(loadMore files (some ps₁) more).value,
      ⟨.debug, s!"Reading configuration file {path}"⟩ ::
        (loadMore files (some ps₁) more).records⟩ := by
  simp only [loadMore, hread, hadd]
  rfl

/-- Files behind others are added to what those gave. -/
theorem loadMore_append {ps ps' : Option Profiles} {before : List String}
    (h : (loadMore files ps before).value = .ok ps') (after : List String) :
    loadMore files ps (before ++ after) = ⟨(loadMore files ps' after).value,
      (loadMore files ps before).records ++ (loadMore files ps' after).records⟩ := by
  induction before generalizing ps with
  | nil =>
    cases h
    rfl
  | cons path before ih =>
    rw [List.cons_append]
    cases hread : files.readText path with
    | error cause =>
      by_cases hcause : cause = .noSuchFile
      · subst hcause
        simp only [loadMore, hread] at h ⊢
        exact ih h
      · simp [loadMore, hread] at h
    | ok text =>
      cases hadd : addFile ps path text with
      | error e => simp [loadMore, hread, hadd] at h
      | ok ps₁ =>
        rw [loadMore_cons_of_ok hread hadd] at h
        rw [loadMore_cons_of_ok hread hadd, loadMore_cons_of_ok hread hadd, ih h,
          List.cons_append]

variable {paths : List String}

/-- Sound files are read to the end, with a record for each that exists. -/
theorem loadMore_of_isSound (h : ∀ p ∈ paths, IsSound files p) :
    ∃ ps, loadMore files none paths = ⟨.ok ps, (paths.filter files.isText).map fun path =>
        ⟨.debug, s!"Reading configuration file {path}"⟩⟩ ∧
      (ps = none ↔ ∀ p ∈ paths, files.read p = .error .noSuchFile) := by
  have hstart : Loaded none [] [] := ⟨rfl, rfl⟩
  obtain ⟨ps, hload, hloaded⟩ := hstart.loadMore files h
  rw [List.nil_append, List.nil_append] at hloaded
  have hrecords := records_loadMore hload
  rw [← List.filter_congr fun p hp => (h p hp).isText_eq] at hrecords
  refine ⟨ps, ?_, ?_⟩
  · rw [← hload, ← hrecords]
  · have hnone : paths.filter files.holds = [] ↔ ∀ p ∈ paths, files.read p = .error .noSuchFile := by
      simp only [List.filter_eq_nil_iff, Bool.not_eq_true, holds_eq_false_iff]
    rw [← hnone]
    cases ps with
    | none => exact iff_of_true rfl hloaded.1
    | some ps =>
      refine iff_of_false (by simp) fun hnil => ?_
      have hlast := hloaded.1
      simp [hnil] at hlast

/-- **The first fault decides.** -/
theorem loadMore_of_faultAt {before : List String} (hbefore : ∀ p ∈ before, IsSound files p)
    (hfault : FaultAt files path e) (after : List String) :
    loadMore files none (before ++ path :: after) =
      ⟨.error e, ((before ++ [path]).filter files.isText).map fun path =>
        ⟨.debug, s!"Reading configuration file {path}"⟩⟩ := by
  obtain ⟨ps, hload, -⟩ := loadMore_of_isSound hbefore
  rw [loadMore_append (congrArg Logged.value hload), hfault.loadMore, hload, List.filter_append,
    List.map_append]

/-- The profiles of a list of files are those read, if any were. -/
theorem load_eq (files : FileSystem) (paths : List String) :
    load files paths =
      ⟨match (loadMore files none paths).value with
        | .error e => .error e
        | .ok none => .error (.notFound paths)
        | .ok (some ps) => .ok ps,
      (loadMore files none paths).records⟩ := by
  rw [load]
  obtain ⟨value, records⟩ := loadMore files none paths
  rcases value with e | ps | ps
  all_goals exact congrArg (Logged.mk _) (List.append_nil _)

/-- **A path is sound if there is no fault at it.** -/
theorem isSound_iff : IsSound files path ↔ ∀ e, ¬ FaultAt files path e := by
  constructor
  · intro hsound e hfault
    obtain ⟨ps, hload, -⟩ := loadMore_of_isSound (List.forall_mem_singleton.mpr hsound)
    rw [hfault.loadMore] at hload
    cases hload
  · intro hnone
    rcases isSound_or_faultAt files path with hsound | ⟨e, hfault⟩
    · exact hsound
    · exact absurd hfault (hnone e)

/-! ## What does not matter -/

theorem FaultAt.congr (h : FaultAt files path e) (hread : files'.read path = files.read path) :
    FaultAt files' path e := by
  cases h with
  | unreadable h hcause => exact .unreadable (hread.trans h) hcause
  | notText h htext => exact .notText (hread.trans h) htext
  | malformed h hparse => exact .malformed (hread.trans h) hparse
  | loose h hparse hentries => exact .loose (hread.trans h) hparse hentries

theorem isText_congr (h : files'.read path = files.read path) :
    files'.isText path = files.isText path := by
  rw [FileSystem.isText, FileSystem.isText, readText_congr h]

/-- **Paths where nothing stands change nothing.** -/
theorem loadMore_filter_holds (files : FileSystem) (ps : Option Profiles) (paths : List String) :
    loadMore files ps (paths.filter files.holds) = loadMore files ps paths := by
  induction paths generalizing ps with
  | nil => rfl
  | cons path paths ih =>
    by_cases hholds : files.holds path = true
    · simp only [List.filter_cons_of_pos hholds, loadMore, ih]
    · have habsent : files.readText path = .error .noSuchFile :=
        readText_of_error (holds_eq_false_iff.mp (by simpa using hholds))
      rw [List.filter_cons_of_neg hholds, ih]
      simp only [loadMore, habsent]

/-- **Which error ends the reading, and what is recorded by then.** A list with a faulty file is
split at the first one; a list without one is the second half of the statement. -/
theorem load_by_first_fault (files : FileSystem) :
    let reading (path : String) : Log.Record := ⟨.debug, s!"Reading configuration file {path}"⟩
    (∀ before path after e, (∀ p ∈ before, ∀ e, ¬ FaultAt files p e) → FaultAt files path e →
      let paths := before ++ path :: after
      load files paths = ⟨.error e, ((before ++ [path]).filter files.isText).map reading⟩ ∧
        (files.isText path = true ↔ ∀ cause, e ≠ .read path cause) ∧
        load files (paths.filter files.holds) = load files paths ∧
        ∀ files', (∀ p ∈ before ++ [path], files'.read p = files.read p) →
          load files' paths = load files paths) ∧
    ∀ paths, (∀ p ∈ paths, ∀ e, ¬ FaultAt files p e) →
      ∃ result, load files paths = ⟨result, (paths.filter files.isText).map reading⟩ ∧
        ((∀ p ∈ paths, files.read p = .error .noSuchFile) ∧ result = .error (.notFound paths) ∨
          (∃ p ∈ paths, files.read p ≠ .error .noSuchFile) ∧ ∃ ps, result = .ok ps) := by
  intro reading
  constructor
  · intro before path after e hbefore hfault paths
    have hsound : ∀ p ∈ before, IsSound files p := fun p hp => isSound_iff.mpr (hbefore p hp)
    have hmore := loadMore_of_faultAt hsound hfault after
    have hload : load files paths = ⟨.error e, ((before ++ [path]).filter files.isText).map
        reading⟩ := by rw [load_eq, hmore]
    refine ⟨hload, hfault.isText_iff, ?_, fun files' hagree => ?_⟩
    · rw [hload, load_eq, loadMore_filter_holds, hmore]
    · have hbefore' : ∀ p ∈ before, IsSound files' p := by
        refine fun p hp => isSound_iff.mpr fun e hfault' => hbefore p hp e (hfault'.congr ?_)
        exact (hagree p (List.mem_append_left _ hp)).symm
      have hfault' : FaultAt files' path e :=
        hfault.congr (hagree path (List.mem_append_right _ List.mem_cons_self))
      rw [hload, load_eq, loadMore_of_faultAt hbefore' hfault' after,
        List.filter_congr fun p hp => isText_congr (hagree p hp)]
  · intro paths hnone
    obtain ⟨ps, hmore, habsent⟩ := loadMore_of_isSound fun p hp => isSound_iff.mpr (hnone p hp)
    cases ps with
    | none => exact ⟨_, by rw [load_eq, hmore], .inl ⟨habsent.mp rfl, rfl⟩⟩
    | some ps => exact ⟨_, by rw [load_eq, hmore], .inr ⟨by simpa using habsent, ps, rfl⟩⟩

/-- Files of every kind: a profile document, one with an entry before its first header, one that
breaks off in a header, a directory, and bytes that are no text. -/
def mixedFiles : FileSystem where
  read path :=
    if path = "good" then .ok (Text.Utf8.encode "[a]\nurl=u\n".toList)
    else if path = "loose" then .ok (Text.Utf8.encode "url=u\n[a]\n".toList)
    else if path = "broken" then .ok (Text.Utf8.encode "url=u\n[a".toList)
    else if path = "dir" then .error .isADirectory
    else if path = "bytes" then .ok [0xFF]
    else .error .noSuchFile

theorem load_mixedFiles :
    (∀ p ∈ ["none", "good", "none"], ∀ e, ¬ FaultAt mixedFiles p e) ∧
      FaultAt mixedFiles "loose" (.missingSectionHeader "loose") ∧
      FaultAt mixedFiles "dir" (.read "dir" .isADirectory) ∧
      load mixedFiles ["none", "good", "none", "loose", "dir", "broken", "bytes"] =
        ⟨.error (.missingSectionHeader "loose"),
          [⟨.debug, "Reading configuration file good"⟩,
            ⟨.debug, "Reading configuration file loose"⟩]⟩ ∧
      load mixedFiles ["none", "good", "none", "dir", "broken"] =
        ⟨.error (.read "dir" .isADirectory), [⟨.debug, "Reading configuration file good"⟩]⟩ ∧
      ∃ ps, (load mixedFiles ["none", "good", "none"]).value = .ok ps := by
  have hgood : mixedFiles.readText "good" = .ok "[a]\nurl=u\n" := rfl
  have hparse : Ini.parse "[a]\nurl=u\n" = .ok [⟨none, []⟩, ⟨some "a", [("url", "u")]⟩] := rfl
  have hloose : mixedFiles.read "loose" = .ok (Text.Utf8.encode "url=u\n[a]\n".toList) := rfl
  have hparse' : Ini.parse (String.ofList "url=u\n[a]\n".toList) =
      .ok (⟨none, [("url", "u")]⟩ :: [⟨some "a", []⟩]) := rfl
  have hsound : ∀ p ∈ ["none", "good", "none"], IsSound mixedFiles p := by
    intro p hp
    simp only [List.mem_cons, List.not_mem_nil, or_false] at hp
    rcases hp with rfl | rfl | rfl
    · exact .absent rfl
    · exact .document hgood hparse (by simp)
    · exact .absent rfl
  have hnone : ∀ p ∈ ["none", "good", "none"], ∀ e, ¬ FaultAt mixedFiles p e :=
    fun p hp => isSound_iff.mp (hsound p hp)
  have hfault : FaultAt mixedFiles "loose" (.missingSectionHeader "loose") :=
    .loose hloose hparse' (by simp)
  have hfault' : FaultAt mixedFiles "dir" (.read "dir" .isADirectory) :=
    .unreadable rfl (by decide)
  obtain ⟨hfirst, hall⟩ := load_by_first_fault mixedFiles
  refine ⟨hnone, hfault, hfault', ?_, ?_, ?_⟩
  · exact (hfirst _ _ ["dir", "broken", "bytes"] _ hnone hfault).1.trans rfl
  · exact (hfirst _ _ ["broken"] _ hnone hfault').1.trans rfl
  · obtain ⟨result, hload, ⟨habsent, -⟩ | ⟨-, ps, rfl⟩⟩ := hall _ hnone
    · exact absurd (habsent "good" (by simp)) (by decide)
    · exact ⟨ps, by rw [hload]⟩

end Profiles

end PipelineLint
