import Rehoming.Reference.Backfill
import Rehoming.Service.Commit
import Rehoming.Wire.Application
/-!
# Checking references and attaching documents

The staff reports on the check of a reference; if the slot meant lies past the end of the
list, the list grows up to it.  The owner attaches documents.
-/

namespace Rehoming

namespace Service

/-- What a report on a reference has changed: how many slots were added, the status of the
slot before, and the slot as it is now. -/
structure CheckOutcome where
  added : Nat
  previous : Option ReferenceStatus
  slot : Option Reference
  deriving DecidableEq, Repr

/-- The change that a report on a reference makes. -/
def checkChange (u : ReferenceUpdate) (index : Nat) (actor : Actor) : Change CheckOutcome :=
  fun a _ => do
    requireAccess actor .updateReference a
    let grown := Reference.ensureSlot a.references index a.answers
    let slots := u.apply index grown
    return ({ a with references := slots },
      { added := grown.length - a.references.length
        previous := (grown[index]?).map (·.status)
        slot := slots[index]? })

/-- The kind and the title of the event of a report on a reference. -/
def checkTitle : ReferenceStatus → EventType × String
  | .contacted => (.referenceContacted, "Reference Contacted")
  | .verified => (.referenceVerified, "Reference Verified")
  | .pending | .failed => (.noteAdded, "Reference Updated")

/-- The event of a report on a reference. -/
def checkedEvent (after : Application) (slot : Reference) (index added : Nat) (actor : UserId)
    (id : String) : TimelineEvent :=
  let (eventType, title) := checkTitle slot.status
  (TimelineEvent.authored id after.applicationId eventType title actor after.updatedAt)
    |>.describe (slot.notes.getD ("Reference " ++ slot.name ++ " marked as " ++ slot.status.label))
    |>.detail "reference_id" (.str slot.id)
    |>.detail "reference_index" (.nat index)
    |>.detail "reference_name" (.str slot.name)
    |>.detail "slots_added" (.nat added)

/-- The audit entry of a report on a reference. -/
def checkedEntry (after : Application) (slot : Reference) (added : Nat)
    (previous : Option ReferenceStatus) (actor : UserId) (id : String) : AuditEntry :=
  .aboutApplication id .referenceUpdate after.applicationId actor
    (.obj
      [("reference_id", .str slot.id),
       ("previous_status", Json.orNull ReferenceStatus.toJson previous),
       ("status", slot.status.toJson),
       ("notes", Json.orNull .str slot.notes),
       ("contacted_at", Json.orNull Time.Instant.toJson slot.contactedAt),
       ("slots_added", .nat added)])
    after.updatedAt

/-- Takes down a report on the check of a reference. -/
def checkReference (policy : Policy) (id : ApplicationId) (u : ReferenceUpdate) (actor : Actor) :
    Service Application := do
  let index ← ofExcept ((u.resolve policy.maxReferenceSlots).mapError Refusal.ofSlotError)
  let actor ← resolve actor
  let done ← commit policy id (checkChange u index actor) policy.transitionRetries
  match done.outcome.slot with
  | some slot =>
    record (checkedEvent done.after slot index done.outcome.added actor.userId)
    log (checkedEntry done.after slot done.outcome.added done.outcome.previous actor.userId)
  | none => pure ()
  return done.after

/-- The change that an upload makes, with the document it adds. -/
def uploadChange (u : Upload) (actor : Actor) : Change Document := fun a now => do
  requireAccess actor .addDocument a
  let id ← ask (.fresh .document)
  let document := u.document id now
  return ({ a with documents := a.documents ++ [document] }, document)

/-- The event of an upload. -/
def uploadedEvent (after : Application) (d : Document) (actor : UserId) (id : String) :
    TimelineEvent :=
  (TimelineEvent.authored id after.applicationId .documentUploaded "Document Uploaded" actor d.uploadedAt)
    |>.describe (d.fileName ++ " (" ++ d.documentType ++ ")")
    |>.detail "document_id" (.str d.documentId)
    |>.detail "document_type" (.str d.documentType)

/-- The audit entry of an upload. -/
def uploadedEntry (after : Application) (d : Document) (actor : UserId) (id : String) : AuditEntry :=
  .aboutApplication id .documentUpload after.applicationId actor
    (.obj
      [("document_id", .str d.documentId), ("document_type", .str d.documentType),
       ("file_name", .str d.fileName)])
    d.uploadedAt

/-- Attaches a document to an application. -/
def attach (policy : Policy) (id : ApplicationId) (u : Upload) (actor : Actor) :
    Service Application := do
  requireNone u.faults .invalidInput
  let done ← commit policy id (uploadChange u actor) policy.transitionRetries
  record (uploadedEvent done.after done.outcome actor.userId)
  log (uploadedEntry done.after done.outcome actor.userId)
  return done.after

end Service

end Rehoming
