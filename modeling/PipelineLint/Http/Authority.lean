import PipelineLint.Http.Address
import PipelineLint.Http.Scheme
import PipelineLint.Text.DecimalDigit

/-!
# Authorities of URLs

The part of a URL that says where a place is: on which host, at which of its services and for which
user. Hosts of web addresses are domain names or numeric addresses, and hosts of unknown schemes are
plain texts.

## Main definitions

* `Http.Authority` — a host with a service and a user
* `Http.Authority.render` — the text of an authority
* `Http.Authority.readHost`, `Http.Authority.read` — reads a host, and a whole authority
-/

namespace PipelineLint.Http

/-- The part of a URL between its scheme and its path. -/
structure Authority where
  username : List Char := []
  password : Option (List Char) := none
  /-- Empty when the URL names no host. -/
  host : List Char
  /-- The number of the service on the host, left out when it is the usual one. -/
  portNumber : Option Nat := none
  deriving DecidableEq, Repr

namespace Authority

/-! ## Writing -/

/-- The text of a host with its service. -/
def renderHost (a : Authority) : List Char :=
  a.host ++ match a.portNumber with
    | some n => ':' :: Nat.toDigits 10 n
    | none => []

/-- The text of the part between scheme and path. -/
def render (a : Authority) : List Char :=
  let password := match a.password with
    | some p => ':' :: p
    | none => []
  let user := a.username ++ password
  "//".toList ++ (if user.isEmpty then [] else user ++ ['@']) ++ renderHost a

/-! ## Reading -/

/-- Reads the number of a service; the usual one is left out. The number ends at a backslash, which
starts what is left. -/
def readPort (scheme : Scheme) (s : List Char) : Except UrlFault (Option Nat × List Char) :=
  let (digits, rest) := s.span Char.isDigit
  let n := Text.digitsValue digits
  if 65536 ≤ n || rest.head?.any (· != '\\') then .error .badPort
  else .ok (if digits.isEmpty || scheme.usualPort? = some n then none else some n, rest)

/-- What no host of an unknown scheme may hold. -/
def isForbiddenInHost (c : Char) : Bool :=
  ['\x00', '\t', '\n', '\r', ' ', '#', '/', ':', '<', '>', '?', '@', '[', '\\', ']', '^',
    '|'].contains c

/-- Reads a host in brackets, without them. -/
def readBracketed (s : List Char) : Except UrlFault (List Char) :=
  if s.getLast? = some ']' then
    match Address.readSixteen? s.dropLast with
    | some ns => .ok (['['] ++ Address.showSixteen ns ++ [']'])
    | none => .error .badIpv6
  else .error .badIpv6

/-- Reads a host. -/
def readHost (webLike : Bool) (s : List Char) : Except UrlFault (List Char) :=
  match s with
  | '[' :: rest => readBracketed rest
  | s =>
    if !webLike then
      if s.any isForbiddenInHost then .error .badHostCharacter else .ok (encodePercent isControl s)
    else if s.isEmpty then .error .emptyHost
    else
      match Domain.toAscii s with
      | .error fault => .error fault
      | .ok name =>
        if Address.endsInNumber name then
          match Address.readFour? name with
          | some n => .ok (Address.showFour n)
          | none => .error .badIpv4
        else .ok name

/-- The host and what follows its colon; a colon inside brackets belongs to the host. -/
def splitPort (inside : Bool) : List Char → List Char × Option (List Char)
  | [] => ([], none)
  | c :: s =>
    if c = ':' && !inside then ([], some s)
    else
      let (host, number) := splitPort (c == '[' || (inside && c != ']')) s
      (c :: host, number)

/-- What stands before and behind the last `@`. -/
def splitUser (s : List Char) : Option (List Char) × List Char :=
  if s.contains '@' then
    let behind := (s.reverse.takeWhile (· != '@')).reverse
    (some (s.take (s.length - behind.length - 1)), behind)
  else (none, s)

/-- Reads the part between scheme and path; `isLast` says that nothing follows it. What is left of
it belongs to the path. A host may be missing only where nobody and no service is named, and only in
a URL of an unknown scheme. -/
def read (scheme : Scheme) (s : List Char) (isLast : Bool) :
    Except UrlFault (Authority × List Char) :=
  let (user, place) := splitUser s
  let (name, number) := splitPort false place
  if user == some [] && place.isEmpty && !isLast then .error .emptyHost
  else
    match readHost scheme.isWebLike name with
    | .error fault => .error fault
    | .ok host =>
      let user := user.getD []
      let username := user.takeWhile (· != ':')
      let password := (user.dropWhile (· != ':')).drop 1
      let isAnybody := !username.isEmpty || !password.isEmpty
      if host.isEmpty && (isAnybody || number.isSome) then .error .emptyHost
      else
        match readPort scheme (number.getD []) with
        | .error fault => .error fault
        | .ok (portNumber, left) =>
          .ok ({
            username := encodePercent inUserInfo username
            password := if password.isEmpty then none else some (encodePercent inUserInfo password)
            host := host
            portNumber := portNumber }, left)

end Authority

end PipelineLint.Http
