import PipelineLint.Log

/-!
# The notice about unchecked certificates

A request over TLS whose certificate is not checked is worth a warning. Whoever asks for unchecked
certificates knows, so the first such wish silences the warning for the whole process.

## Main definitions

* `Notice.text?` — the warning about a request, if one is due
* `Notice.suppress` — silences the warning
* `Notice.give` — logs the warning, if one is due
-/

namespace PipelineLint.Notice

/-- How a URL starts whose requests go over TLS, letter case apart. -/
def opening : List Char := "https://".toList

/-- Whether requests for `target` go over TLS. -/
def isSecure (target : String) : Bool :=
  (target.toList.take opening.length).map Char.toLower == opening

/-- The warning about an unchecked request for `target`, if one is due. -/
def text? (suppressed : Bool) (target : String) : Option String :=
  if suppressed || !isSecure target then none
  else
    some (s!"Unverified HTTPS request is being made to {target}. "
      ++ "Adding certificate verification is strongly advised.")

/-- Silences the warning. The first time this is recorded. -/
def suppress (suppressed : Bool) : Logged Bool := do
  if !suppressed then
    Logged.debug "Insecure TLS warnings suppressed for this process"
  pure true

/-- Logs the warning about an unchecked request for `target`, if one is due. -/
def give (suppressed : Bool) (target : String) : Logged Unit :=
  match text? suppressed target with
  | some text => Logged.warn text
  | none => pure ()

end PipelineLint.Notice
