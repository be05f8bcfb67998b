import Rehoming.Application.Basic
/-!
# Batches

One patch for many applications.  Notes are added, tags replaced, and a status is a
decision.
-/

namespace Rehoming

/-- The fields a batch may touch. -/
structure Patch where
  status : Option Status
  priority : Option Priority
  tags : Option TextSet
  notes : Option String
  deriving DecidableEq

namespace Patch

/-- Whether a patch touches nothing. -/
def isEmpty (p : Patch) : Bool :=
  p.status.isNone && p.priority.isNone && p.tags.isNone && p.notes.isNone

/-- The application with the priority, the tags and the notes of a patch. -/
def label (p : Patch) (a : Application) : Application :=
  { a with
    priority := p.priority.getD a.priority
    tags := p.tags.getD a.tags }.appendIfAny p.notes

/-- The application after a patch, with the move of its stage. -/
def applyTo (p : Patch) (a : Application) (actor : UserId) (now : Time.Instant) :
    Except TransitionRefused (Application × Option Application.StageMove) :=
  match p.status with
  | none => .ok (p.label a, none)
  | some status =>
    (a.transition status actor now).map fun moved =>
      (p.label moved.settleStage, moved.stageMove)

end Patch

/-- A patch for many applications. -/
structure Batch where
  applicationIds : List ApplicationId
  updates : Patch
  deriving DecidableEq

namespace Batch

/-- The faults of a batch. -/
def faults (b : Batch) : List FieldError :=
  (if b.applicationIds.isEmpty then
    [⟨"application_ids", "At least one application id is required", FieldError.missingCode⟩] else [])
  ++ (if b.updates.isEmpty then
    [⟨"updates", "updates must change at least one field", FieldError.missingCode⟩] else [])

end Batch

end Rehoming
