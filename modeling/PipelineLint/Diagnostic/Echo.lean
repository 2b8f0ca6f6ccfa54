import PipelineLint.Text.Prefix

/-!
# Echoed content

When a file holds no pipeline, the validator repeats the whole of it inside its message:
`Jenkinsfile content '…' did not contain the 'pipeline' step`. The echo is cut out. The content may
hold the closing words itself, so the echo ends at their last occurrence.

## Main definitions

* `Diagnostic.afterLast?` — what follows the last occurrence of a text
* `Diagnostic.collapseEcho` — a message without the echoed content
-/

namespace PipelineLint.Diagnostic

open Text

/-- What follows the last occurrence of `mark` in `s`. -/
def afterLast? (mark : List Char) : List Char → Option (List Char)
  | [] => none
  | c :: s =>
    match afterLast? mark s with
    | some rest => some rest
    | none => after? mark (c :: s)

/-- The words before the echoed content. -/
def echoOpening : List Char := "Jenkinsfile content '".toList

/-- The words after the echoed content. -/
def echoClosing : List Char := "' did not".toList

/-- The words that stand for the opening, the echoed content and the closing. -/
def echoSummary : List Char := "Jenkinsfile did not".toList

/-- `s` without the content that it echoes, which is at least one character long. -/
def collapseEcho (s : List Char) : List Char :=
  match after? echoOpening s with
  | some (_ :: rest) =>
    match afterLast? echoClosing rest with
    | some after => echoSummary ++ after
    | none => s
  | _ => s

end PipelineLint.Diagnostic
