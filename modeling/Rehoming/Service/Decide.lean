import Rehoming.Decision
import Rehoming.Service.Commit
import Rehoming.Wire.Mark
/-!
# Deciding on an application

The staff approves or rejects an application, and the applicant withdraws it.  Either leaves
an event for the status, one for the stage if that moved, and an audit entry.  While the
application waits, the staff may choose its stage, and the owner may delete it.
-/

namespace Rehoming

namespace Service

/-- A change that moves an application to another status, with the move of its stage. -/
abbrev Moved := Committed (Option Application.StageMove)

/-- The title of the event of a status. -/
def statusTitle : Status → String
  | .approved => "Application Approved"
  | .rejected => "Application Rejected"
  | .withdrawn => "Application Withdrawn"
  | .submitted => "Status Updated"

/-- The description of a change of status: its reason, else its notes, else its name. -/
def statusDescription (before after : Application) (reason notes : Option String) : String :=
  ((Text.nonBlank reason).or (Text.nonBlank notes)).getD
    ("Status changed from " ++ before.status.label ++ " to " ++ after.status.label)

/-- The event of a change of status. -/
def statusEvent (done : Moved) (actor : UserId) (reason notes : Option String) (id : String) :
    TimelineEvent :=
  (TimelineEvent.authored id done.after.applicationId (.ofStatus done.after.status)
      (statusTitle done.after.status) actor done.after.updatedAt)
    |>.describe (statusDescription done.before done.after reason notes)
    |>.statuses (some done.before.status) done.after.status

/-- The event of a stage that a change of status has moved. -/
def stageEvent (done : Moved) (move : Application.StageMove) (id : String) : TimelineEvent :=
  .stageSettled id done.after.applicationId ("status changed to " ++ done.after.status.label)
    move.previous move.new done.after.updatedAt

/-- Puts the events of a change of status into the timeline. -/
def recordMove (done : Moved) (actor : UserId) (reason notes : Option String) : Service Unit := do
  record (statusEvent done actor reason notes)
  match done.outcome with
  | some move => record (stageEvent done move)
  | none => pure ()

/-- The audit entry of a change of status. -/
def statusEntry (action : AuditAction) (done : Moved) (actor : UserId) (reason notes : Option String)
    (id : String) : AuditEntry :=
  .aboutApplication id action done.after.applicationId actor
    (.obj ([("from", done.before.status.toJson), ("to", done.after.status.toJson)]
      ++ Json.optional "reason" .str reason ++ Json.optional "notes" .str notes))
    done.after.updatedAt

/-- The value of a change of status, or its refusal. -/
def allowed {α : Type} : Except TransitionRefused α → Service α
  | .ok a => pure a
  | .error refused => throw (.invalidTransition refused)

/-- The change that a decision makes. -/
def decisionChange (d : Decision) (actor : Actor) : Change (Option Application.StageMove) :=
  fun a now => do
    requireAccess actor .changeStatus a
    allowed (d.applyTo a actor.userId now)

/-- Takes a decision on an application. -/
def decideStatus (policy : Policy) (id : ApplicationId) (d : Decision) (actor : Actor) :
    Service Application := do
  let actor ← resolve actor
  let done ← commit policy id (decisionChange d actor) policy.transitionRetries
  recordMove done actor.userId d.reason d.notes
  log (statusEntry .applicationStatusUpdated done actor.userId d.reason d.notes)
  return done.after

/-- The change that a withdrawal makes. -/
def withdrawalChange (w : Withdrawal) (actor : Actor) : Change (Option Application.StageMove) :=
  fun a now => do
    requireAccess actor .withdraw a
    allowed (w.applyTo a actor.userId now)

/-- Withdraws an application. -/
def withdraw (policy : Policy) (id : ApplicationId) (w : Withdrawal) (actor : Actor) :
    Service Application := do
  let done ← commit policy id (withdrawalChange w actor) policy.transitionRetries
  recordMove done actor.userId w.reason none
  log (statusEntry .withdraw done actor.userId w.reason none)
  return done.after

/-- The change that the choice of a stage makes, with the stage before it. -/
def stageChange (c : StageChoice) (actor : Actor) : Change Stage := fun a _ => do
  requireAccess actor .changeStage a
  requireSubmitted a
  return (c.applyTo a, a.stage)

/-- The event of the choice of a stage. -/
def stageChosenEvent (after : Application) (previous : Stage) (c : StageChoice) (actor : UserId)
    (id : String) : TimelineEvent :=
  let event := TimelineEvent.stageChosen id after.applicationId previous after.stage actor after.updatedAt
  match Text.nonBlank c.notes with
  | some notes => event.detail "notes" (.str notes)
  | none => event

/-- The audit entry of the choice of a stage. -/
def stageChosenEntry (after : Application) (previous : Stage) (actor : UserId) (id : String) :
    AuditEntry :=
  .aboutApplication id .applicationUpdated after.applicationId actor
    (.obj [("stage", .obj [("from", previous.toJson), ("to", after.stage.toJson)])])
    after.updatedAt

/-- Chooses the stage of an application. -/
def chooseStage (policy : Policy) (id : ApplicationId) (c : StageChoice) (actor : Actor) :
    Service Application := do
  requireNone c.faults .invalidInput
  let actor ← resolve actor
  let done ← commit policy id (stageChange c actor) policy.transitionRetries
  if done.outcome != done.after.stage then
    record (stageChosenEvent done.after done.outcome c actor.userId)
    log (stageChosenEntry done.after done.outcome actor.userId)
  return done.after

/-- The change that a deletion makes. -/
def deletionChange (actor : Actor) : Change Unit := fun a now => do
  requireAccess actor .delete a
  requireSubmitted a
  return (a.delete now, ())

/-- The audit entry of a deletion. -/
def deletedEntry (after : Application) (actor : UserId) (id : String) : AuditEntry :=
  .aboutApplication id .delete after.applicationId actor
    (.obj
      [("status", after.status.toJson),
       ("deleted_at", Json.orNull Time.Instant.toJson after.deletedAt)])
    after.updatedAt

/-- Deletes an application. -/
def delete (policy : Policy) (id : ApplicationId) (actor : Actor) : Service Unit := do
  let done ← commit policy id (deletionChange actor) policy.transitionRetries
  log (deletedEntry done.after actor.userId)

end Service

end Rehoming
