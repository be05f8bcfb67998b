import Rehoming.Edit
import Rehoming.Service.Commit
import Rehoming.Wire.Application
/-!
# Editing an application

The owner changes the contents of an application that still waits for a decision.  New
answers must fit the form of the rescue.  An edit that changes nothing leaves no trace in
the timeline and in the audit log.
-/

namespace Rehoming

namespace Service

/-- The contents of an application, as the audit log keeps them. -/
def contents (a : Application) : Json :=
  .obj
    [("answers", Answers.toJson a.answers),
     ("references", .arr (a.references.map Reference.toJson)),
     ("priority", a.priority.toJson),
     ("notes", Json.orNull .str a.notes),
     ("tags", Json.strings a.tags.toList),
     ("interview_notes", Json.orNull .str a.interviewNotes),
     ("home_visit_notes", Json.orNull .str a.homeVisitNotes),
     ("score", Json.orNull .nat a.score)]

/-- The event of an edit. -/
def editedEvent (a : Application) (changes : List String) (actor : UserId) (id : String) :
    TimelineEvent :=
  (TimelineEvent.noteAdded id a.applicationId "application"
      ("Updated fields: " ++ Text.join ", " changes) actor a.updatedAt)
    |>.detail "changed_fields" (Json.strings changes)

/-- The audit entry of an edit. -/
def editedEntry (before after : Application) (changes : List String) (actor : UserId) (id : String) :
    AuditEntry :=
  .aboutApplication id .applicationUpdated after.applicationId actor
    (.obj
      [("changed_fields", Json.strings changes), ("before", contents before),
       ("after", contents after)])
    after.updatedAt

/-- The change that an edit makes, with the names of the fields it changes. -/
def editChange (e : Edit) (actor : Actor) : Change (List String) := fun a _ => do
  requireAccess actor .updateContent a
  requireSubmitted a
  match e.answers with
  | some answers => requireAnswers a.rescueId answers
  | none => pure ()
  return (e.applyTo a, e.changes a)

/-- Edits an application. -/
def edit (policy : Policy) (id : ApplicationId) (e : Edit) (actor : Actor) : Service Application := do
  requireNone (e.faults policy.maxReferences) .invalidInput
  let done ← commit policy id (editChange e actor) policy.transitionRetries
  if !done.outcome.isEmpty then
    record (editedEvent done.after done.outcome actor.userId)
    log (editedEntry done.before done.after done.outcome actor.userId)
  return done.after

end Service

end Rehoming
