import PipelineLint.Error
import PipelineLint.Log

/-!
# Profiles

A profile says where a server is and how to log in, under a name. Profiles come from documents that
are read one after the other; files that do not exist are passed over. A key that comes later
replaces one that came before, in whichever file. What a profile leaves open is taken from the
section `DEFAULT`, which is no profile itself.

## Main definitions

* `Settings` — where a server is and how to log in
* `Profile` — settings of which any may be left open
* `Profiles.load` — the profiles of a list of files
* `Profiles.get` — the settings of one profile
-/

namespace PipelineLint

/-- Where a server is and how to log in. -/
structure Settings where
  url : String
  username : Option String
  password : Option String
  deriving DecidableEq, Repr

/-- Settings of which any may be left open. -/
structure Profile where
  url : Option String := none
  username : Option String := none
  password : Option String := none
  deriving DecidableEq, Repr

namespace Profile

/-- The form of a key in which it is compared. No letter outside ASCII has a lower case form in the
names of the three keys that mean something, so it is enough to lower the letters of ASCII. -/
def keyForm (key : String) : String := String.ofList (key.toList.map Char.toLower)

/-- Sets what `key` names; other keys mean nothing. -/
def set (p : Profile) (key value : String) : Profile :=
  let form := keyForm key
  if form = "url" then { p with url := some value }
  else if form = "username" then { p with username := some value }
  else if form = "password" then { p with password := some value }
  else p

/-- Sets what the entries name, in their order. -/
def setAll (p : Profile) (entries : List (String × String)) : Profile :=
  entries.foldl (fun p (key, value) => p.set key value) p

/-- Takes what `p` leaves open from `fallback`. -/
def orElse (p fallback : Profile) : Profile :=
  { url := p.url <|> fallback.url
    username := p.username <|> fallback.username
    password := p.password <|> fallback.password }

end Profile

/-- The profiles of a list of files. -/
structure Profiles where
  /-- The profiles by their names, each name once. -/
  named : List (String × Profile) := []
  /-- What profiles leave open is taken from here. -/
  defaults : Profile := {}
  /-- The last file that was read. -/
  path : String
  deriving DecidableEq, Repr

namespace Profiles

/-- The section whose keys every profile inherits. -/
def defaultSection : String := "DEFAULT"

/-- Changes the profile of a name; a new name starts with everything left open. -/
def update (name : String) (change : Profile → Profile) :
    List (String × Profile) → List (String × Profile)
  | [] => [(name, change {})]
  | (n, p) :: more => if n = name then (n, change p) :: more else (n, p) :: update name change more

/-- Adds one section. Entries before the first header belong to no profile. -/
def addSection (ps : Profiles) (s : Ini.Section) : Except ConfigError Profiles :=
  match s.name with
  | none => if s.entries.isEmpty then .ok ps else .error (.missingSectionHeader ps.path)
  | some name =>
    if name = defaultSection then .ok { ps with defaults := ps.defaults.setAll s.entries }
    else .ok { ps with named := update name (·.setAll s.entries) ps.named }

/-- Adds sections in their order. -/
def addSections (ps : Profiles) : List Ini.Section → Except ConfigError Profiles
  | [] => .ok ps
  | s :: more =>
    match ps.addSection s with
    | .ok ps => ps.addSections more
    | .error e => .error e

/-- Adds what the file `path` says, whose content is `text`, to the profiles read so far. -/
def addFile (ps : Option Profiles) (path text : String) : Except ConfigError Profiles :=
  match Ini.parse text with
  | .error e => .error (.parse path e)
  | .ok sections =>
    match ps with
    | some ps => { ps with path := path }.addSections sections
    | none => Profiles.addSections { path := path } sections

/-- Reads the files of `paths` that exist, in their order, and adds them to the profiles read so
far. -/
def loadMore (files : FileSystem) (ps : Option Profiles) :
    List String → Logged (Except ConfigError (Option Profiles))
  | [] => pure (.ok ps)
  | path :: more =>
    match files.readText path with
    | .error .noSuchFile => loadMore files ps more
    | .error cause => pure (.error (.read path cause))
    | .ok text => do
      Logged.debug s!"Reading configuration file {path}"
      match addFile ps path text with
      | .error e => pure (.error e)
      | .ok ps => loadMore files (some ps) more

/-- The profiles of the files of `paths` that exist. At least one of them has to. -/
def load (files : FileSystem) (paths : List String) : Logged (Except ConfigError Profiles) := do
  match ← loadMore files none paths with
  | .error e => pure (.error e)
  | .ok (some ps) => pure (.ok ps)
  | .ok none => pure (.error (.notFound paths))

/-- The settings of one profile. -/
def get (ps : Profiles) (profile : String) : Except ConfigError Settings :=
  match ps.named.lookup profile with
  | none => .error (.missingProfile profile ps.path)
  | some own =>
    let p := own.orElse ps.defaults
    match p.url with
    | none => .error (.missingUrl profile ps.path)
    | some url =>
      if url.isEmpty then .error (.missingUrl profile ps.path)
      else .ok ⟨url, p.username, p.password⟩

end Profiles

end PipelineLint
