/-!
# Schemes

The first part of a URL, which tells how the rest is read. Web addresses and their kin have a usual
service each, and URLs that name files are read much like them. Tabs and line ends may stand
anywhere in a URL and mean nothing, but where they part the drive of a file from what follows.

## Main definitions

* `Http.dropBreaks` — a text without tabs and line ends
* `Http.Scheme` — a scheme in lower case
* `Http.Scheme.read?` — reads a scheme with its colon
-/

namespace PipelineLint.Http

/-- Whether `c` is a tab or belongs to a line end. -/
def isBreak (c : Char) : Bool := c == '\t' || c == '\n' || c == '\r'

/-- A text without the tabs and line ends in it. -/
def dropBreaks (s : List Char) : List Char := s.filter (!isBreak ·)

/-- A scheme in lower case. -/
abbrev Scheme := List Char

namespace Scheme

/-- The usual service of a scheme, for web addresses and their kin. -/
def usualPort? (scheme : Scheme) : Option Nat :=
  if scheme = "http".toList || scheme = "ws".toList then some 80
  else if scheme = "https".toList || scheme = "wss".toList then some 443
  else if scheme = "ftp".toList then some 21
  else none

/-- Whether a scheme's URLs name files. -/
def isFile (scheme : Scheme) : Bool := scheme == "file".toList

/-- Whether a scheme's URLs are read like web addresses. -/
def isWebLike (scheme : Scheme) : Bool := (usualPort? scheme).isSome || isFile scheme

/-- What may stand in a scheme behind its first letter. -/
def isNameChar (c : Char) : Bool := c.isAlphanum || c == '+' || c == '-' || c == '.'

/-- The scheme of a URL in lower case, and what follows its colon. -/
def read? (s : List Char) : Option (Scheme × List Char) :=
  let name := dropBreaks (s.takeWhile (· != ':'))
  match name, s.dropWhile (· != ':') with
  | c :: _, _ :: rest =>
    if c.isAlpha && name.all isNameChar then some (name.map Char.toLower, rest) else none
  | _, _ => none

end Scheme

end PipelineLint.Http
