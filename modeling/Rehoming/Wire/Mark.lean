import Rehoming.Access
import Rehoming.Audit
import Rehoming.Json.Decode
import Rehoming.Question.Basic
import Rehoming.Search.Criteria
import Rehoming.Timeline.Event
/-!
# Marks in JSON

Identifiers, timestamps and the values of finite types are strings.
-/

namespace Rehoming

open Json (Decoder)

/-- A timestamp as a document. -/
def Time.Instant.toJson (t : Time.Instant) : Json :=
  .str t.text

/-- The identifier of a document. -/
def ApplicationId.ofJson : Decoder ApplicationId :=
  fun j => (Decoder.text j).map ApplicationId.mk

/-- An identifier as a document. -/
def ApplicationId.toJson (id : ApplicationId) : Json :=
  .str id.text

/-- The identifier of a document. -/
def UserId.ofJson : Decoder UserId :=
  fun j => (Decoder.text j).map UserId.mk

/-- An identifier as a document. -/
def UserId.toJson (id : UserId) : Json :=
  .str id.text

/-- The identifier of a document. -/
def PetId.ofJson : Decoder PetId :=
  fun j => (Decoder.text j).map PetId.mk

/-- An identifier as a document. -/
def PetId.toJson (id : PetId) : Json :=
  .str id.text

/-- The identifier of a document. -/
def RescueId.ofJson : Decoder RescueId :=
  fun j => (Decoder.text j).map RescueId.mk

/-- An identifier as a document. -/
def RescueId.toJson (id : RescueId) : Json :=
  .str id.text

/-- The status of a document. -/
def Status.ofJson : Decoder Status :=
  Decoder.label Status.all Status.label

/-- A status as a document. -/
def Status.toJson (s : Status) : Json :=
  .str s.label

/-- The priority of a document. -/
def Priority.ofJson : Decoder Priority :=
  Decoder.label Priority.all Priority.label

/-- A priority as a document. -/
def Priority.toJson (p : Priority) : Json :=
  .str p.label

/-- The stage of a document. -/
def Stage.ofJson : Decoder Stage :=
  Decoder.label Stage.all Stage.label

/-- A stage as a document. -/
def Stage.toJson (s : Stage) : Json :=
  .str s.label

/-- The reference status of a document. -/
def ReferenceStatus.ofJson : Decoder ReferenceStatus :=
  Decoder.label ReferenceStatus.all ReferenceStatus.label

/-- A reference status as a document. -/
def ReferenceStatus.toJson (s : ReferenceStatus) : Json :=
  .str s.label

namespace EventType

/-- What a kind of event is called in documents. -/
def name : EventType → String
  | statusUpdate => "status_update"
  | applicationApproved => "application_approved"
  | applicationRejected => "application_rejected"
  | applicationWithdrawn => "application_withdrawn"
  | documentUploaded => "document_uploaded"
  | referenceContacted => "reference_contacted"
  | referenceVerified => "reference_verified"
  | noteAdded => "note_added"
  | systemAutoProgression => "system_auto_progression"
  | stageChange => "stage_change"

/-- In documents a kind is called what it is called elsewhere. -/
theorem name_eq_label (t : EventType) : t.name = t.label := by
  cases t <;> rfl

/-- The kind of event of a document. -/
def ofJson : Decoder EventType :=
  Decoder.label all name

/-- A kind of event as a document. -/
def toJson (t : EventType) : Json :=
  .str t.name

end EventType

/-- The sort field of a document. -/
def SortField.ofJson : Decoder SortField :=
  Decoder.label SortField.all SortField.label

/-- The sort order of a document. -/
def SortOrder.ofJson : Decoder SortOrder :=
  Decoder.label SortOrder.all SortOrder.label

/-- The role of a document. -/
def Role.ofJson : Decoder Role :=
  Decoder.label Role.all Role.label

/-- The action of a document. -/
def AuditAction.ofJson : Decoder AuditAction :=
  Decoder.label AuditAction.all AuditAction.label

/-- The actor of a document. -/
def Actor.shape : Json.Shape Actor :=
  Actor.mk <$> .required "user_id" UserId.ofJson <*> .required "role" Role.ofJson
    <*> .optional "rescue_id" RescueId.ofJson

end Rehoming
