import PipelineLint.Http.Authority
import PipelineLint.Http.Path

/-!
# URLs

A URL is read leniently and kept in its normal form: scheme and host in lower case, the usual
service left out, `.` and `..` resolved in the path, and everything percent encoded that may not
stand as it is. Web addresses have a host and a path always, and a backslash is a slash in them. A
file on a drive has no host.

## Main definitions

* `Http.Url` — a URL in its normal form
* `Http.Url.parse` — reads a URL
* `Http.Url.resolve` — reads a reference that stands in a document of a given URL
* `Http.Url.render` — the text of a URL
-/

namespace PipelineLint.Http

/-- A URL in its normal form. -/
structure Url where
  scheme : Scheme
  authority : Option Authority
  path : Path
  query : Option (List Char) := none
  fragment : Option (List Char) := none
  deriving DecidableEq, Repr

namespace Url

/-! ## Writing -/

/-- What is asked for on a server: the path and the query. -/
def target (u : Url) : List Char :=
  u.path.render ++ match u.query with
    | some q => '?' :: q
    | none => []

/-- The text of a URL. -/
def render (u : Url) : String :=
  let authority := match u.authority with
    | some a => a.render
    | none => if u.path.looksLikeHost then "/.".toList else []
  let fragment := match u.fragment with
    | some f => '#' :: f
    | none => []
  String.ofList (u.scheme ++ [':'] ++ authority ++ u.target ++ fragment)

/-! ## Use -/

/-- Whether requests can be sent to a URL. -/
def isRequestable (u : Url) : Bool := u.scheme == "http".toList || u.scheme == "https".toList

/-- Whether requests for a URL go over TLS. -/
def isSecure (u : Url) : Bool := u.scheme == "https".toList

/-- The host of a URL, or nothing. -/
def host (u : Url) : List Char :=
  match u.authority with
  | some a => a.host
  | none => []

/-- The service that requests for a URL go to. -/
def effectivePort (u : Url) : Option Nat :=
  match u.authority with
  | some a => a.portNumber <|> u.scheme.usualPort?
  | none => none

/-! ## Reading -/

/-- Whether `c` ends the part between scheme and path. -/
def endsAuthority (webLike : Bool) (c : Char) : Bool :=
  Path.isSlash webLike c || c == '?' || c == '#'

/-- What stands before a query or a fragment, and the rest. -/
def takePath (s : List Char) : List Char × List Char := s.span fun c => c != '?' && c != '#'

/-- Reads a query and a fragment. -/
def readTail (webLike : Bool) (s : List Char) : Option (List Char) × Option (List Char) :=
  let fragmentOf : List Char → Option (List Char)
    | '#' :: f => some (encodePercent inFragment f)
    | _ => none
  match s with
  | '?' :: rest =>
    let (q, rest) := rest.span (· != '#')
    (some (encodePercent (if webLike then inWebQuery else inQuery) q), fragmentOf rest)
  | rest => (none, fragmentOf rest)

/-- A text without control characters and spaces around it. -/
def trim (s : List Char) : List Char :=
  let outer (c : Char) : Bool := c.toNat ≤ 0x20
  ((s.dropWhile outer).reverse.dropWhile outer).reverse

/-- Reads a URL with an authority, behind the two slashes. -/
def readPlace (scheme : Scheme) (s : List Char) : Except UrlFault Url :=
  let webLike := scheme.isWebLike
  let (place, rest) := s.span fun c => !endsAuthority webLike c
  match Authority.read scheme place rest.isEmpty with
  | .error fault => .error fault
  | .ok (authority, left) =>
    let (path, tail) := takePath rest
    let (query, fragment) := readTail webLike tail
    let path :=
      if webLike then Path.ofWebAddress scheme path else Path.ofOther scheme (left ++ path)
    .ok ⟨scheme, some authority, path, query, fragment⟩

/-- The URL of the file that a path leads to, from `s` on. A file on a drive has no host, unless a
tab ends the drive. -/
def ofFile (scheme : Scheme) (host s : List Char) : Url :=
  let (path, tail) := takePath s
  let (query, fragment) := readTail true (dropBreaks tail)
  let names := Path.splitNames true path
  match Path.cutDrive? scheme [] names with
  | some (way, more) =>
    ⟨scheme, some { host := host }, .rooted (Path.walk scheme way more), query, fragment⟩
  | none =>
    let names := Path.walk scheme [] (names.map dropBreaks)
    let host := if names.head?.any Path.isDrive then [] else host
    ⟨scheme, some { host := host }, .rooted (Path.dropEmpty names), query, fragment⟩

/-- Reads a URL that names a file, behind its colon, where tabs are left only behind drives. The
local machine is left out as host, and then the slash behind it counts as part of the path. -/
def readFile (scheme : Scheme) (s : List Char) : Except UrlFault Url :=
  let slashes := (s.takeWhile (Path.isSlash true)).length
  if slashes < 2 then .ok (ofFile scheme [] (s.drop slashes))
  else
    let place := s.drop 2
    let (name, rest) := place.span fun c => !endsAuthority true c
    let name := dropBreaks name
    if Path.isDrive name then .ok (ofFile scheme [] place)
    else if name.isEmpty then .ok (ofFile scheme [] rest)
    else
      match Authority.readHost true name with
      | .error fault => .error fault
      | .ok host =>
        if host = "localhost".toList then .ok (ofFile scheme [] rest)
        else .ok (ofFile scheme host (Path.dropSlash rest))

/-- Reads a URL of a scheme without rules of its own, behind its colon. -/
def readOther (scheme : Scheme) (s : List Char) : Except UrlFault Url :=
  match s with
  | '/' :: '/' :: rest => readPlace scheme rest
  | s =>
    let (path, tail) := takePath s
    let (query, fragment) := readTail false tail
    let path := match path with
      | '/' :: names => .rooted (Path.walk scheme [] (Path.splitNames false names))
      | text => .plain (encodePercent isControl text)
    .ok ⟨scheme, none, path, query, fragment⟩

/-- Reads a URL behind the colon of its scheme. -/
def readScheme (scheme : Scheme) (s : List Char) : Except UrlFault Url :=
  if scheme.isFile then readFile scheme (Path.markDrives '/' '/' s)
  else
    let s := dropBreaks s
    if scheme.isWebLike then readPlace scheme (s.dropWhile (Path.isSlash true))
    else readOther scheme s

/-- Reads a URL. -/
def parse (s : List Char) : Except UrlFault Url :=
  match Scheme.read? (trim s) with
  | some (scheme, rest) => readScheme scheme rest
  | none => .error .noScheme

/-- Reads a reference without a scheme, in a document at the web address `base`. -/
def readReference (base : Url) (s : List Char) : Except UrlFault Url :=
  let slashes := s.takeWhile (Path.isSlash true)
  if 2 ≤ slashes.length then readPlace base.scheme (s.drop slashes.length)
  else
    let (path, tail) := takePath s
    let (query, fragment) := readTail true tail
    if !slashes.isEmpty then
      .ok { base with path := Path.ofWebAddress base.scheme path, query, fragment }
    else if path.isEmpty then
      .ok { base with query := if tail.head? = some '?' then query else base.query, fragment }
    else
      let way := match base.path with
        | .rooted names => names.dropLast
        | .plain _ => []
      let names := Path.walk base.scheme way (Path.splitNames true path)
      .ok { base with path := .rooted names, query, fragment }

/-- Reads a reference in a document at the web address `base`. -/
def resolve (base : Url) (s : List Char) : Except UrlFault Url :=
  let s := trim s
  match Scheme.read? s with
  | some (scheme, rest) =>
    let reference := dropBreaks rest
    if scheme = base.scheme && (reference.takeWhile (Path.isSlash true)).length < 2 then
      readReference base reference
    else readScheme scheme rest
  | none => readReference base (dropBreaks s)

end Url

end PipelineLint.Http
