import Rehoming.Demo.Arguments
/-!
# The command line

Shows the demonstration.  The exit code is 1 if the walk was refused on the way, and 2 if the
arguments make no sense.
-/

open Rehoming in
/-- Shows the demonstration that the arguments ask for. -/
def main (arguments : List String) : IO UInt32 := do
  match Demo.Showing.ofArguments? arguments with
  | none =>
    IO.eprintln Demo.Showing.usage
    return 2
  | some showing =>
    let outcome := Demo.run showing.options showing.clock
    IO.print outcome.text
    match outcome.refusal with
    | none => return 0
    | some refusal =>
      IO.eprintln refusal.message
      return 1
