import PipelineLint.Error
import PipelineLint.Text.Blank
import PipelineLint.Text.Split
import PipelineLint.Text.Utf8

/-!
# Crumbs

A server refuses requests that change something unless they bear the crumb that its crumb issuer
hands out. The issuer answers with the name and the value of a header, as in
`Jenkins-Crumb:0123456789abcdef`. Any other answer, such as a login page, gives no crumb.

## Main definitions

* `Crumb` — a header's name and value
* `Crumb.parse` — the crumb that the issuer's answer holds
-/

namespace PipelineLint

/-- The header that every request that changes something has to bear. -/
structure Crumb where
  name : String
  value : String
  deriving DecidableEq, Repr

namespace Crumb

/-- Where the crumb issuer is asked, below the server's base URL. -/
def issuerPath : String := "crumbIssuer/api/xml?xpath=concat(//crumbRequestField,\":\",//crumb)"

/-- How the issuer's answer starts, letter case apart. -/
def opening : List Char := "jenkins-crumb:".toList

/-- Whether `s` starts as the issuer's answer does. As many bytes are looked at as the opening
has. -/
def isAnswer (s : List Char) : Bool :=
  (Text.Utf8.takeBytes? (Text.Utf8.encode opening).length s).any fun head =>
    head.map Char.toLower == opening

/-- The crumb that `text` holds; `url` is the server that gave it. The name goes up to the first
colon, and both parts are trimmed. -/
def parse (text url : String) : Except ConnectionError Crumb :=
  let s := text.toList
  if isAnswer s then
    match Text.cut? ':' s with
    | some (name, value) =>
      .ok ⟨String.ofList (Text.trim name), String.ofList (Text.trim value)⟩
    | none => .error (.crumbUnavailable url)
  else .error (.crumbUnavailable url)

end Crumb

end PipelineLint
