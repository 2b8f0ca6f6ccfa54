/-!
# Credentials

A user's name and password. Without a name there are no credentials, whatever the password.

## Main definitions

* `Credentials` — a user's name and password
* `Credentials.ofParts?` — the credentials that a name and a password make
-/

namespace PipelineLint

/-- A user's name and password. -/
structure Credentials where
  username : String
  password : Option String
  deriving DecidableEq, Repr

/-- The credentials that a name and a password make, when the name is not empty. -/
def Credentials.ofParts? (username password : Option String) : Option Credentials :=
  match username with
  | none => none
  | some name => if name.isEmpty then none else some ⟨name, password⟩

end PipelineLint
