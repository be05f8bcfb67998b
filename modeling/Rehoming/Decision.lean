import Rehoming.Application.Basic
/-!
# Decisions

The moves of an application through its life cycle: the decision of the staff, the
withdrawal by the applicant, the choice of a stage and the deletion, each as a change of one
record.
-/

namespace Rehoming

/-- A decision of the staff. -/
structure Decision where
  status : Status
  rejectionReason : Option String
  notes : Option String
  followUpDate : Option Time.Instant
  deriving DecidableEq, Repr

namespace Decision

/-- The application once the decision has been taken, but for its stage. -/
def record (d : Decision) (a : Application) : Application :=
  let a := if d.status = .rejected then
      { a with rejectionReason := (Text.nonBlank d.rejectionReason).or a.rejectionReason }
    else a
  let a := a.appendIfAny d.notes
  { a with followUpDate := d.followUpDate.or a.followUpDate }

/-- The application after the decision, with the move of its stage. -/
def applyTo (d : Decision) (a : Application) (actor : UserId) (now : Time.Instant) :
    Except TransitionRefused (Application × Option Application.StageMove) :=
  (a.transition d.status actor now).map fun moved =>
    let decided := d.record moved
    (decided.settleStage, decided.stageMove)

/-- The reason of a rejection, as it was given. -/
def reason (d : Decision) : Option String :=
  if d.status = .rejected then d.rejectionReason else none

end Decision

/-- A withdrawal by the applicant. -/
structure Withdrawal where
  reason : Option String
  deriving DecidableEq, Repr

namespace Withdrawal

/-- What a withdrawal adds to the notes. -/
def note (w : Withdrawal) : Option String :=
  (Text.nonBlank w.reason).map fun reason => "Withdrawal reason: " ++ reason

/-- The application after the withdrawal, with the move of its stage. -/
def applyTo (w : Withdrawal) (a : Application) (actor : UserId) (now : Time.Instant) :
    Except TransitionRefused (Application × Option Application.StageMove) :=
  (a.transition .withdrawn actor now).map fun moved =>
    let noted := match w.note with
      | none => moved
      | some note => moved.appendNotes note
    (noted.settleStage, noted.stageMove)

end Withdrawal

/-- The choice of a stage. -/
structure StageChoice where
  stage : Stage
  notes : Option String
  deriving DecidableEq, Repr

namespace StageChoice

/-- The faults of a choice: a stage that a status settles cannot be chosen. -/
def faults (c : StageChoice) : List FieldError :=
  if c.stage.isSettled then
    [⟨"stage", "stage \"" ++ c.stage.label ++ "\" is set automatically by the application status",
      FieldError.optionCode⟩]
  else []

/-- The application after the choice. -/
def applyTo (c : StageChoice) (a : Application) : Application :=
  { a with stage := c.stage }.appendIfAny c.notes

end StageChoice

namespace Application

/-- The application, deleted. -/
def delete (a : Application) (now : Time.Instant) : Application :=
  { a with deletedAt := some now }

end Application

end Rehoming
