import PipelineLint.Http.Domain.Label
import PipelineLint.Http.Failure
import PipelineLint.Http.Percent
import PipelineLint.Text.Split

/-!
# Domain names

A domain name is read in two steps. First every character gives way to the usual one of those that
look or mean the same, and letters take up the marks behind them. Then the labels between the full
stops are read, and each gives its form in ASCII.

## Main definitions

* `Http.Domain.labels` — the labels of a name
* `Http.Domain.toAscii` — the ASCII form of a domain name
-/

namespace PipelineLint.Http.Domain

/-- What no domain name may hold. -/
def isForbidden (c : Char) : Bool :=
  isControl c || [' ', '%', '#', '/', ':', '<', '>', '?', '@', '[', '\\', ']', '^', '|'].contains c

/-- The labels of a name, split at the points. -/
def labels (name : List Char) : List (List Char) := Text.splitAt (· == '.') name

/-- A name in usual characters. -/
def toUsual? (s : List Char) : Option (List Char) :=
  if Label.isAscii s then some (s.map Char.toLower)
  else (s.mapM usualForm?).map fun forms => Text.compose forms.flatten

/-- The ASCII form of a domain name, of which some characters may be percent encoded. -/
def toAscii (s : List Char) : Except UrlFault (List Char) :=
  match Text.Utf8.decode (decodePercent s) with
  | .error _ => .error .badDomain
  | .ok s =>
    match toUsual? s with
    | none => .error .badDomain
    | some s =>
      if s.any isForbidden then .error .badDomain
      else if s.isEmpty then .error .emptyHost
      else
        match (labels s).mapM Label.read? with
        | none => .error .badDomain
        | some ls =>
          if keepDirections ls then .ok (List.intercalate ['.'] (ls.map (·.ascii)))
          else .error .badDomain

end PipelineLint.Http.Domain
