import PipelineLint.Proofs.Profiles.Lookup
import PipelineLint.Settings

/-!
# Where settings come from

The name of a server decides where all settings are taken from. When the environment names one, the
user's name and the password are those of the environment as well, or missing as they are there;
when it does not, nothing that it holds for them counts. A profile's password is therefore never
sent to a server that the environment names, nor the other way round.

## What is read

A file that is not read cannot matter, and what cannot matter is a statement about two file systems:
those that agree on certain paths lead to the same settings, the same failure and the same records.
For settings of the environment these are no paths at all.

## Main definitions

* `Environment.NamesNoServer` — an environment leaves the server open

## Main results

* `Profiles.load_congr` — profiles depend on the files that are listed
* `Profiles.records_load` — profiles that were read leave a record for each file
* `Settings.records_resolve` — the records of settings that were found
* `Settings.resolve_from_one_source` — the source of settings, and what it depends on
-/

namespace PipelineLint

namespace Profiles

variable {files files' : FileSystem}

theorem loadMore_congr (ps : Option Profiles) {paths : List String}
    (h : ∀ path ∈ paths, files'.readText path = files.readText path) :
    loadMore files' ps paths = loadMore files ps paths := by
  induction paths generalizing ps with
  | nil => rfl
  | cons path paths ih =>
    have hmore (ps : Option Profiles) : loadMore files' ps paths = loadMore files ps paths :=
      ih ps fun p hp => h p (List.mem_cons_of_mem _ hp)
    simp only [loadMore, h path List.mem_cons_self, hmore]

/-- **Profiles depend on nothing but the files that are listed.** -/
theorem load_congr {paths : List String}
    (h : ∀ path ∈ paths, files'.readText path = files.readText path) :
    load files' paths = load files paths := by
  rw [load, load, loadMore_congr none h]

theorem records_loadMore {ps ps' : Option Profiles} {paths : List String}
    (h : (loadMore files ps paths).value = .ok ps') :
    (loadMore files ps paths).records = (paths.filter files.holds).map
      fun path => ⟨.debug, s!"Reading configuration file {path}"⟩ := by
  induction paths generalizing ps with
  | nil => rfl
  | cons path paths ih =>
    cases hread : files.readText path with
    | error cause =>
      by_cases hcause : cause = .noSuchFile
      · subst hcause
        simp only [loadMore, hread] at h ⊢
        rw [ih h, List.filter_cons_of_neg (by simp [FileSystem.holds, hread])]
      · simp [loadMore, hread] at h
    | ok text =>
      have hholds : files.holds path = true := by rw [FileSystem.holds, hread]
      cases hadd : addFile ps path text with
      | error e => simp [loadMore, hread, hadd] at h
      | ok ps₁ =>
        simp only [loadMore, hread, Logged.value_bind, Logged.records_bind, hadd] at h ⊢
        rw [ih h, List.filter_cons_of_pos hholds, List.map_cons]
        rfl

/-- **Profiles that were read leave one record for each file that exists.** -/
theorem records_load {paths : List String} {ps : Profiles}
    (h : (load files paths).value = .ok ps) :
    (load files paths).records = (paths.filter files.holds).map
      fun path => ⟨.debug, s!"Reading configuration file {path}"⟩ := by
  simp only [load, Logged.value_bind, Logged.records_bind] at h ⊢
  cases hmore : (loadMore files none paths).value with
  | error e => simp [hmore] at h
  | ok ps' =>
    rw [hmore] at h
    cases ps' with
    | none => simp at h
    | some ps' => rw [records_loadMore hmore, Logged.records_pure, List.append_nil]

end Profiles

/-- The environment has no name of a server, or an empty one. -/
def Environment.NamesNoServer (env : Environment) : Prop :=
  env "JENKINS_URL" = none ∨ env "JENKINS_URL" = some ""

theorem Environment.namesNoServer_or (env : Environment) :
    env.NamesNoServer ∨ ∃ url, env "JENKINS_URL" = some url ∧ url ≠ "" := by
  rw [NamesNoServer]
  cases env "JENKINS_URL" with
  | none => exact .inl (.inl rfl)
  | some url =>
    by_cases hurl : url = ""
    · exact .inl (.inr (by rw [hurl]))
    · exact .inr ⟨url, rfl, hurl⟩

namespace Settings

variable {env : Environment}

theorem ofEnvironment?_of_url {url : String} (henv : env "JENKINS_URL" = some url)
    (hurl : url ≠ "") :
    ofEnvironment? env = some ⟨url, env "JENKINS_USERNAME", env "JENKINS_PASSWORD"⟩ := by
  have hempty : url.isEmpty = false := by simpa using hurl
  simp [ofEnvironment?, henv, hempty]

theorem ofEnvironment?_of_namesNoServer (henv : env.NamesNoServer) :
    ofEnvironment? env = none := by
  rcases henv with henv | henv
  · simp [ofEnvironment?, henv]
  · simp [ofEnvironment?, henv]

variable (files : FileSystem) (home : Option String) (args : CommandLine.Arguments)

theorem resolve_of_environment {settings : Settings} (henv : ofEnvironment? env = some settings) :
    resolve files home env args =
      ⟨.ok settings, [⟨.debug, "Loading configuration from environment variables"⟩]⟩ := by
  simp only [resolve, henv]
  rfl

theorem resolve_of_profile (henv : ofEnvironment? env = none) :
    resolve files home env args =
      let loaded := Profiles.load files (paths home args)
      ⟨loaded.value.bind (·.get args.profile), loaded.records⟩ := by
  rw [resolve, henv]
  cases hload : Profiles.load files (paths home args) with
  | mk value records =>
    cases value with
    | error e => simp [bind, pure, Except.bind]
    | ok ps => simp [bind, pure, Except.bind]

/-- Settings that were found leave the records of their source, whatever they are: one record when
the environment names the server, and otherwise one for each profile file. -/
theorem records_resolve {settings : Settings}
    (h : (resolve files home env args).value = .ok settings) :
    (env.NamesNoServer → (resolve files home env args).records =
      ((paths home args).filter files.holds).map
        fun path => ⟨.debug, s!"Reading configuration file {path}"⟩) ∧
    (¬ env.NamesNoServer → (resolve files home env args).records =
      [⟨.debug, "Loading configuration from environment variables"⟩]) := by
  constructor
  · intro henv
    rw [resolve_of_profile files home args (ofEnvironment?_of_namesNoServer henv)] at h ⊢
    dsimp only at h ⊢
    cases hload : (Profiles.load files (paths home args)).value with
    | error e => simp [hload, Except.bind] at h
    | ok ps => exact Profiles.records_load hload
  · intro henv
    obtain ⟨url, hurl, hne⟩ := env.namesNoServer_or.resolve_left henv
    rw [resolve_of_environment files home args (ofEnvironment?_of_url hurl hne)]

/-- **The source of settings.** A server that the environment names is used with the user's name and
the password of the environment, and then no file, home directory or argument matters. Otherwise the
environment does not matter, and the settings, or the failure to find any, are those of the chosen
profile in the file that the arguments name, or else in the two usual files, in this order; no other
file matters. -/
theorem resolve_from_one_source (env : Environment) :
    (∀ url, env "JENKINS_URL" = some url → url ≠ "" →
      resolve files home env args =
        ⟨.ok ⟨url, env "JENKINS_USERNAME", env "JENKINS_PASSWORD"⟩,
          [⟨.debug, "Loading configuration from environment variables"⟩]⟩ ∧
      ∀ files' home' args', resolve files' home' env args' = resolve files home env args) ∧
    (env.NamesNoServer →
      (∀ env' : Environment, env'.NamesNoServer →
        resolve files home env' args = resolve files home env args) ∧
      ∃ paths : List String,
        (∀ path, args.config = some path → paths = [path]) ∧
        (args.config = none → paths = ".jenkinsfilelintrc" ::
          home.toList.map fun dir => below (below dir ".config") "jenkinsfilelintrc") ∧
        (resolve files home env args).value =
          (Profiles.load files paths).value.bind (·.get args.profile) ∧
        (resolve files home env args).records = (Profiles.load files paths).records ∧
        ∀ files', (∀ path ∈ paths, files'.readText path = files.readText path) →
          resolve files' home env args = resolve files home env args) := by
  constructor
  · intro url henv hurl
    have hsome := ofEnvironment?_of_url henv hurl
    refine ⟨resolve_of_environment files home args hsome, fun files' home' args' => ?_⟩
    rw [resolve_of_environment files' home' args' hsome,
      resolve_of_environment files home args hsome]
  · intro henv
    have hnone := ofEnvironment?_of_namesNoServer henv
    refine ⟨fun env' henv' => ?_, paths home args, fun path hpath => ?_, fun hconfig => ?_, ?_, ?_,
      fun files' hfiles => ?_⟩
    · rw [resolve_of_profile files home args (ofEnvironment?_of_namesNoServer henv'),
        resolve_of_profile files home args hnone]
    · rw [paths, hpath]
    · rw [paths, hconfig]
      cases home <;> rfl
    · rw [resolve_of_profile files home args hnone]
    · rw [resolve_of_profile files home args hnone]
    · rw [resolve_of_profile files' home args hnone, resolve_of_profile files home args hnone,
        Profiles.load_congr hfiles]

end Settings

end PipelineLint
