import PipelineLint.Http.Percent
import PipelineLint.Http.Scheme
import PipelineLint.Text.Split

/-!
# Paths of URLs

A path is a way of names from a root, and `.` and `..` are walked, not kept. The path of a file may
start with a drive, which is written with a colon. Nothing leads out of a drive. A tab or a line end
that follows a drive ends it like a slash, and what follows in the same name is taken as it is.

## Main definitions

* `Http.Path` — what a URL says about a place
* `Http.Path.render` — the text of a path
* `Http.Path.walk` — goes on along names from a directory
* `Http.Path.ofWebAddress`, `Http.Path.ofOther` — reads a path
* `Http.Path.cutDrive?` — reads a path of which a tab ends the drive
-/

namespace PipelineLint.Http

/-- What a URL says about a place. -/
inductive Path where
  /-- The names on the way from the root. -/
  | rooted (names : List (List Char))
  /-- A text that only the scheme can tell the meaning of. -/
  | plain (text : List Char)
  deriving DecidableEq, Repr

namespace Path

/-! ## Writing -/

/-- The text of a path. -/
def render : Path → List Char
  | .rooted names => names.flatMap ('/' :: ·)
  | .plain text => text

/-- Whether a path would be read as a host when it stood behind a scheme. -/
def looksLikeHost : Path → Bool
  | .rooted ([] :: _ :: _) => true
  | _ => false

/-! ## Names -/

/-- Whether `c` separates the names of a path. -/
def isSlash (webLike : Bool) (c : Char) : Bool := c == '/' || (webLike && c == '\\')

/-- Whether a name stands for the directory itself. -/
def isDot (name : List Char) : Bool :=
  let s := name.map Char.toLower
  s == ['.'] || s == "%2e".toList

/-- Whether a name stands for the directory above. -/
def isDotDot (name : List Char) : Bool :=
  let s := name.map Char.toLower
  s == "..".toList || s == ".%2e".toList || s == "%2e.".toList || s == "%2e%2e".toList

/-- Whether a text stands for a drive: a letter and a colon, or a bar in its place. -/
def isDrive : List Char → Bool
  | [c, d] => c.isAlpha && (d == ':' || d == '|')
  | _ => false

/-- Whether a name is a drive, as far as its first backslash. -/
def isInDrive (name : List Char) : Bool := isDrive (name.takeWhile (· != '\\'))

/-- The names of a path, split at the slashes. -/
def splitNames (webLike : Bool) (s : List Char) : List (List Char) :=
  Text.splitAt (isSlash webLike) s

/-- The directory above. Nothing leads out of a drive. -/
def above (way : List (List Char)) : List (List Char) :=
  if way.getLast?.any isInDrive then way else way.dropLast

/-- Goes on to a name. The drive that a file is on is written with a colon. -/
def enter (scheme : Scheme) (way : List (List Char)) (name : List Char) : List (List Char) :=
  if scheme.isFile && way.isEmpty && isDrive name then [name.take 1 ++ [':']]
  else way ++ [encodePercent inPath name]

/-- Goes on along names from a directory. What ends in a directory ends in an empty name. -/
def walk (scheme : Scheme) : List (List Char) → List (List Char) → List (List Char)
  | way, [] => way
  | way, [name] =>
    if isDotDot name then above way ++ [[]]
    else if isDot name then way ++ [[]]
    else enter scheme way name
  | way, name :: more =>
    if isDotDot name then walk scheme (above way) more
    else if isDot name then walk scheme way more
    else walk scheme (enter scheme way name) more

/-! ## Reading -/

/-- A text without the slash at its start. -/
def dropSlash : List Char → List Char
  | [] => []
  | c :: s => if isSlash true c then s else c :: s

/-- The path of a web address, from its slash on. -/
def ofWebAddress (scheme : Scheme) (s : List Char) : Path :=
  .rooted (walk scheme [] (splitNames true (dropSlash s)))

/-- The path in a URL of an unknown scheme, from its slash on, which may be missing. -/
def ofOther (scheme : Scheme) : List Char → Path
  | [] => .rooted []
  | '/' :: s => .rooted (walk scheme [] (splitNames false s))
  | s => .rooted (walk scheme [] (splitNames false s))

/-- A text with a tab behind each letter and colon that tabs or line ends part from what follows,
and without all others. The two characters before the text are `b` and `a`. -/
def markDrives (b a : Char) : List Char → List Char
  | [] => []
  | c :: s =>
    if !isBreak c then c :: markDrives a c s
    else if b.isAlpha && a == ':' then '\t' :: markDrives a '\t' s
    else markDrives b a s

/-- The drive and the rest of a name, when a tab parts them. -/
def brokenDrive? : List Char → Option (List Char × List Char)
  | c :: ':' :: '\t' :: d :: s => if c.isAlpha then some ([c, ':'], dropBreaks (d :: s)) else none
  | _ => none

/-- The way along a drive and the rest of its name, when a tab parts them where a path starts, and
the names that follow. Before it, names may be walked that lead nowhere. -/
def cutDrive? (scheme : Scheme) :
    List (List Char) → List (List Char) → Option (List (List Char) × List (List Char))
  | _, [] => none
  | way, name :: more =>
    if isDotDot name then cutDrive? scheme (above way) more
    else if isDot name then cutDrive? scheme way more
    else
      match if way.isEmpty then brokenDrive? name else none with
      | some (drive, rest) => some ([drive, encodePercent inPath rest], more.map dropBreaks)
      | none => cutDrive? scheme (enter scheme way (dropBreaks name)) more

/-- Names without the empty ones at their start; of nothing but empty names, the last stays. -/
def dropEmpty : List (List Char) → List (List Char)
  | [] :: name :: more => dropEmpty (name :: more)
  | names => names

end Path

end PipelineLint.Http
