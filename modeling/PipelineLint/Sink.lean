import PipelineLint.Text.Utf8

/-!
# Sinks

Where diagnostics are printed. A sink takes a limited number of bytes, or any number of them. What
is beyond its limit is lost, and whoever wrote it is told.

## Main definitions

* `Sink` — the bytes that were written, and how many more fit
* `Sink.write` — writes bytes, as far as they fit
-/

namespace PipelineLint

/-- Where diagnostics are printed. -/
structure Sink where
  /-- How many more bytes fit; `none` when any number does. -/
  room : Option Nat := none
  written : List UInt8 := []
  deriving DecidableEq, Repr

namespace Sink

/-- A sink that takes `limit` bytes. -/
def ofLimit (limit : Option Nat) : Sink := { room := limit }

/-- Writes what fits of `bytes`. The answer is `false` when not all of them fit. -/
def write (sink : Sink) (bytes : List UInt8) : Bool × Sink :=
  match sink.room with
  | none => (true, { sink with written := sink.written ++ bytes })
  | some n =>
    (bytes.length ≤ n, ⟨some (n - bytes.length), sink.written ++ bytes.take n⟩)

/-- Writes a text. -/
def writeText (sink : Sink) (text : String) : Bool × Sink :=
  sink.write (Text.Utf8.encode text.toList)

end Sink

end PipelineLint
