import Rehoming.Application.Basic
/-!
# Statistics

The applications of a rescue, or of all rescues, in numbers: how many there are of each
status and of each priority, and the shares of the decisions as percentages with two
decimals.
-/

namespace Rehoming

/-- Applications in numbers. -/
structure Statistics where
  rescueId : Option RescueId
  total : Nat
  byStatus : List (Status × Nat)
  byPriority : List (Priority × Nat)
  pending : Nat
  approvalRate : Double
  rejectionRate : Double
  withdrawalRate : Double
  deriving DecidableEq

namespace Statistics

/-- How many applications have a status. -/
def countStatus (apps : List Application) (s : Status) : Nat :=
  apps.countP (·.status == s)

/-- How many applications have a priority. -/
def countPriority (apps : List Application) (p : Priority) : Nat :=
  apps.countP (·.priority == p)

/-- A share as a percentage with two decimals. -/
def percentage (part total : Nat) : Double :=
  if total = 0 then Double.ofNat 0
  else (Double.ofNat (Double.share 10000 part total)).div (Double.ofNat 100)

/-- The numbers of some applications. -/
def of (rescueId : Option RescueId) (apps : List Application) : Statistics :=
  let total := apps.length
  let rate (s : Status) : Double := percentage (countStatus apps s) total
  { rescueId
    total
    byStatus := Status.all.map fun s => (s, countStatus apps s)
    byPriority := Priority.all.map fun p => (p, countPriority apps p)
    pending := countStatus apps .submitted
    approvalRate := rate .approved
    rejectionRate := rate .rejected
    withdrawalRate := rate .withdrawn }

end Statistics

end Rehoming
