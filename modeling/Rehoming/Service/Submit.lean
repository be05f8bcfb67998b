import Rehoming.Service.Commit
import Rehoming.Submission
import Rehoming.Wire.Application
/-!
# Submitting an application

A new application for a pet.  The first that applies of these is the refusal: a fault of the
submission, an unknown applicant, an unknown pet, a pet that is not available, an active
application of the applicant for the pet, and answers that do not fit the form of the pet's
rescue.
-/

namespace Rehoming

namespace Service

/-- The event of a submission. -/
def submittedEvent (a : Application) (petName : String) (now : Time.Instant) (id : String) :
    TimelineEvent :=
  (TimelineEvent.authored id a.applicationId .statusUpdate "Application Submitted" a.userId now)
    |>.describe ("Application submitted for " ++ petName)
    |>.statuses none .submitted
    |>.detail "pet_id" a.petId.toJson
    |>.detail "reference_count" (.nat a.references.length)

/-- The audit entry of a submission. -/
def submittedEntry (a : Application) (now : Time.Instant) (id : String) : AuditEntry :=
  .aboutApplication id .create a.applicationId a.userId
    (.obj
      [("pet_id", a.petId.toJson), ("rescue_id", a.rescueId.toJson), ("status", a.status.toJson),
       ("priority", a.priority.toJson)])
    now

/-- Inserts a new application; a clash of active applications is a duplicate. -/
def insertNew (a : Application) : Service Application := do
  match ← ask (.insert a) with
  | .ok stored => return stored
  | .error (.uniqueViolation _) => throw (.duplicateActiveApplication a.userId a.petId)
  | .error e => throw (.store e)

/-- Submits an application on behalf of the actor. -/
def submit (policy : Policy) (s : Submission) (actor : Actor) : Service Application := do
  requireNone (s.faults policy.maxReferences) .invalidInput
  let user := actor.userId
  let _ ← present (.userNotFound user) (← stored (← ask (.findUser user)))
  let pet ← present (.petNotFound s.petId) (← stored (← ask (.findPet s.petId)))
  require (pet.status == .available) (.petUnavailable pet.petId pet.status)
  let active ← stored (← ask (.findActive user pet.petId))
  require active.isNone (.duplicateActiveApplication user pet.petId)
  requireAnswers pet.rescueId s.answers
  let now ← ask .now
  let id ← ask (.fresh .application)
  let a ← insertNew (s.application ⟨id⟩ user pet.petId pet.rescueId now policy.ttlDays)
  record (submittedEvent a pet.name now)
  log (submittedEntry a now)
  return a

end Service

end Rehoming
