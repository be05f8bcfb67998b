import Rehoming.Demo.Script
import Rehoming.Time.Rfc3339
/-!
# Arguments of the demonstration

What can be chosen about the demonstration from a command line: which slot to check, whether to
show a timeline, whether to leave the batch out, and at what time everything happens.
-/

namespace Rehoming.Demo

/-- A demonstration at a time. -/
structure Showing where
  options : Options := {}
  clock : Time.Instant := Time.Instant.ofSeconds 1740819600 0
  deriving DecidableEq, Repr

namespace Showing

/-- The showing that some arguments ask for, on top of one that has been asked for already. -/
def extend (s : Showing) : List String → Option Showing
  | [] => some s
  | "--reference-id" :: id :: rest =>
    extend { s with options := { s.options with referenceId := id } } rest
  | "--at" :: time :: rest => do
    let clock ← Time.Instant.ofText? time
    extend { s with clock } rest
  | "--show-timeline" :: rest => extend { s with options := { s.options with showTimeline := true } } rest
  | "--skip-bulk" :: rest => extend { s with options := { s.options with skipBatch := true } } rest
  | _ => none

/-- The showing that some arguments ask for. -/
def ofArguments? (arguments : List String) : Option Showing :=
  extend {} arguments

/-- How to ask for a showing. -/
def usage : String :=
  "usage: rehoming [--reference-id ID] [--show-timeline] [--skip-bulk] [--at TIME]"

end Showing

end Rehoming.Demo
