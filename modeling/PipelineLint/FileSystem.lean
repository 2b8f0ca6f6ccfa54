import PipelineLint.FileSystem.SystemError
import PipelineLint.Text.Utf8

/-!
# Files

A file system answers what reading a path gives. Nothing is known of it but that reading the same
path again gives the same.

## Main definitions

* `IoError` — why reading or writing failed, with its wording
* `FileSystem` — what reading each path gives
* `FileSystem.readText` — the content of a file that must be text
-/

namespace PipelineLint

/-- Why reading or writing failed. -/
inductive IoError where
  /-- The system refused it, with the number of its reason. -/
  | system (number : Int)
  | nulInName
  | notText
  | sinkFull
  deriving DecidableEq, Repr

namespace IoError

/-- Nothing stands at the path. -/
@[match_pattern] abbrev noSuchFile : IoError := .system 2

/-- The path goes on behind a file. -/
@[match_pattern] abbrev notADirectory : IoError := .system 20

/-- A directory stands at the path. -/
@[match_pattern] abbrev isADirectory : IoError := .system 21

/-- The path or a name in it is too long. -/
@[match_pattern] abbrev nameTooLong : IoError := .system 36

/-- The error text. -/
def message : IoError → String
  | .system number => s!"{SystemError.text number} (os error {number})"
  | .nulInName => "file name contained an unexpected NUL byte"
  | .notText => "stream did not contain valid UTF-8"
  | .sinkFull => "sink full"

end IoError

/-- What reading each path gives. -/
structure FileSystem where
  read : String → Except IoError (List UInt8)

/-- The content of a file that must be text. -/
def FileSystem.readText (files : FileSystem) (path : String) : Except IoError String :=
  match files.read path with
  | .error e => .error e
  | .ok bytes =>
    match Text.Utf8.decode bytes with
    | .ok s => .ok (String.ofList s)
    | .error _ => .error .notText

end PipelineLint
