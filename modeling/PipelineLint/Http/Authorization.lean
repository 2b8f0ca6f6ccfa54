import PipelineLint.Credentials
import PipelineLint.Http.Base64
import PipelineLint.Http.Message

/-!
# Authorization

Credentials go with a request as a header: the name, a colon and the password, in Base64. A URL may
hold credentials as well. They are taken out of it and go as a header too, so that they are neither
sent nor shown as a part of the URL.

## Main definitions

* `Http.authorization` — the header that bears credentials
* `Http.Url.credentials?` — the credentials that a URL holds
* `Http.Url.withoutUser` — a URL without its credentials
-/

namespace PipelineLint.Http

/-- The header that bears credentials. A missing password is sent as an empty one. -/
def authorization (credentials : Credentials) : Header :=
  let password := credentials.password.getD ""
  let plain := credentials.username.toList ++ [':'] ++ password.toList
  ⟨"authorization", "Basic " ++ String.ofList (Base64.encode (Text.Utf8.encode plain))⟩

/-- The text that a percent encoded part of a URL stands for, when it is text. -/
def decodeText? (s : List Char) : Option String :=
  match Text.Utf8.decode (decodePercent s) with
  | .ok s => some (String.ofList s)
  | .error _ => none

/-- The credentials that a URL holds. A password alone is enough. -/
def Url.credentials? (u : Url) : Option Credentials := do
  let authority ← u.authority
  let username ← decodeText? authority.username
  let password := authority.password.bind decodeText?
  if username.isEmpty && password.isNone then none else some ⟨username, password⟩

/-- A URL without its credentials. -/
def Url.withoutUser (u : Url) : Url :=
  { u with authority := u.authority.map fun a => { a with username := [], password := none } }

end PipelineLint.Http
