/-!
# Status, priority and stage

The three marks of an application.  The status gates what may happen to it: it starts as
submitted and every other status is final.  The priority orders the work of the staff.  The
stage tells how far the review has come; it gates nothing, and a final status settles it.
-/

namespace Rehoming

/-- Where an application stands. -/
inductive Status where
  | submitted
  | approved
  | rejected
  | withdrawn
  deriving DecidableEq, Repr, Inhabited

namespace Status

/-- Every status. -/
def all : List Status := [submitted, approved, rejected, withdrawn]

/-- The statuses that may follow. -/
def next : Status → List Status
  | submitted => [approved, rejected, withdrawn]
  | _ => []

/-- Whether one status may follow another. -/
def canBecome (s target : Status) : Bool :=
  s.next.contains target

/-- Whether no status may follow. -/
def isFinal (s : Status) : Bool :=
  s != submitted

/-- Whether the applicant may apply for the same pet once more. -/
def releasesPair : Status → Bool
  | rejected | withdrawn => true
  | _ => false

/-- The written form. -/
def label : Status → String
  | submitted => "submitted"
  | approved => "approved"
  | rejected => "rejected"
  | withdrawn => "withdrawn"

end Status

/-- How urgent an application is. -/
inductive Priority where
  | low
  | normal
  | high
  | urgent
  deriving DecidableEq, Repr

namespace Priority

instance : Inhabited Priority := ⟨normal⟩

/-- Every priority, the least first. -/
def all : List Priority := [low, normal, high, urgent]

/-- The place in the order of urgency. -/
def rank : Priority → Nat
  | low => 0
  | normal => 1
  | high => 2
  | urgent => 3

/-- The written form. -/
def label : Priority → String
  | low => "low"
  | normal => "normal"
  | high => "high"
  | urgent => "urgent"

end Priority

/-- How far the review of an application has come. -/
inductive Stage where
  | pending
  | reviewing
  | visiting
  | deciding
  | resolved
  | withdrawn
  deriving DecidableEq, Repr, Inhabited

namespace Stage

/-- Every stage. -/
def all : List Stage := [pending, reviewing, visiting, deciding, resolved, withdrawn]

/-- The written form. -/
def label : Stage → String
  | pending => "pending"
  | reviewing => "reviewing"
  | visiting => "visiting"
  | deciding => "deciding"
  | resolved => "resolved"
  | withdrawn => "withdrawn"

/-- What it means to have come here. -/
def description : Stage → String
  | pending => "Application is now pending initial review"
  | reviewing => "Application is under active review"
  | visiting => "Home visit has been scheduled"
  | deciding => "Application is in final decision phase"
  | resolved => "Application has been completed"
  | withdrawn => "Application has been withdrawn"

/-- The stage that a final status settles. -/
def settledBy : Status → Option Stage
  | .submitted => none
  | .approved | .rejected => some resolved
  | .withdrawn => some withdrawn

/-- Whether some status settles this stage, so that it cannot be chosen. -/
def isSettled (s : Stage) : Bool :=
  Status.all.any fun status => settledBy status == some s

end Stage

end Rehoming
