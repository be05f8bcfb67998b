import Rehoming.Application.Basic
import Rehoming.Wire.Answer
import Rehoming.Wire.Mark
/-!
# Applications in JSON

An application writes every field, with null for those that are missing.  A reference leaves
out what it lacks.
-/

namespace Rehoming

open Json (Decoder Shape)

/-- The limit of a version. -/
def versionLimit : Nat := Number.wordLimit 64

/-- The limit of a stored score. -/
def scoreLimit : Nat := Number.wordLimit 8

namespace Reference

/-- A reference as a document. -/
def toJson (r : Reference) : Json :=
  .obj (
    [("id", .str r.id), ("name", .str r.name), ("relationship", .str r.relationship),
     ("phone", .str r.phone)]
    ++ Json.optional "email" .str r.email
    ++ [("status", r.status.toJson)]
    ++ Json.optional "notes" .str r.notes
    ++ Json.optional "contacted_at" Time.Instant.toJson r.contactedAt)

/-- The written form of a reference. -/
def shape : Shape Reference :=
  Reference.mk <$> .required "id" Decoder.text <*> .required "name" Decoder.text
    <*> .required "relationship" Decoder.text <*> .required "phone" Decoder.text
    <*> .optional "email" Decoder.text <*> .required "status" ReferenceStatus.ofJson
    <*> .optional "notes" Decoder.text <*> .optional "contacted_at" Decoder.instant

end Reference

namespace Document

/-- A document of an application, in JSON. -/
def toJson (d : Document) : Json :=
  .obj
    [("document_id", .str d.documentId), ("document_type", .str d.documentType),
     ("file_name", .str d.fileName), ("file_url", .str d.fileUrl),
     ("uploaded_at", d.uploadedAt.toJson), ("verified", .bool d.verified)]

/-- The written form of a document of an application. -/
def shape : Shape Document :=
  Document.mk <$> .required "document_id" Decoder.text <*> .required "document_type" Decoder.text
    <*> .required "file_name" Decoder.text <*> .required "file_url" Decoder.text
    <*> .required "uploaded_at" Decoder.instant <*> .required "verified" Decoder.bool

end Document

namespace Application

/-- An application as the members of an object. -/
def members (a : Application) : List (String × Json) :=
  [("application_id", a.applicationId.toJson),
   ("user_id", a.userId.toJson),
   ("pet_id", a.petId.toJson),
   ("rescue_id", a.rescueId.toJson),
   ("status", a.status.toJson),
   ("priority", a.priority.toJson),
   ("stage", a.stage.toJson),
   ("answers", Answers.toJson a.answers),
   ("references", .arr (a.references.map Reference.toJson)),
   ("documents", .arr (a.documents.map Document.toJson)),
   ("notes", Json.orNull .str a.notes),
   ("interview_notes", Json.orNull .str a.interviewNotes),
   ("home_visit_notes", Json.orNull .str a.homeVisitNotes),
   ("rejection_reason", Json.orNull .str a.rejectionReason),
   ("score", Json.orNull .nat a.score),
   ("tags", Json.strings a.tags.toList),
   ("created_at", a.createdAt.toJson),
   ("updated_at", a.updatedAt.toJson),
   ("version", .nat a.version),
   ("submitted_at", Json.orNull Time.Instant.toJson a.submittedAt),
   ("decision_at", Json.orNull Time.Instant.toJson a.decisionAt),
   ("actioned_by", Json.orNull UserId.toJson a.actionedBy),
   ("actioned_at", Json.orNull Time.Instant.toJson a.actionedAt),
   ("expires_at", Json.orNull Time.Instant.toJson a.expiresAt),
   ("follow_up_date", Json.orNull Time.Instant.toJson a.followUpDate),
   ("deleted_at", Json.orNull Time.Instant.toJson a.deletedAt)]

/-- An application as a document. -/
def toJson (a : Application) : Json :=
  .obj a.members

/-- The written form of an application. -/
def shape : Shape Application :=
  Application.mk <$> .required "application_id" ApplicationId.ofJson
    <*> .required "user_id" UserId.ofJson
    <*> .required "pet_id" PetId.ofJson
    <*> .required "rescue_id" RescueId.ofJson
    <*> .required "status" Status.ofJson
    <*> .required "priority" Priority.ofJson
    <*> .required "stage" Stage.ofJson
    <*> .required "answers" Answers.ofJson
    <*> .required "references" (Decoder.list Reference.shape.decode)
    <*> .required "documents" (Decoder.list Document.shape.decode)
    <*> .nullable "notes" Decoder.text
    <*> .nullable "interview_notes" Decoder.text
    <*> .nullable "home_visit_notes" Decoder.text
    <*> .nullable "rejection_reason" Decoder.text
    <*> .nullable "score" (Decoder.nat scoreLimit)
    <*> .required "tags" Decoder.textSet
    <*> .required "created_at" Decoder.instant
    <*> .required "updated_at" Decoder.instant
    <*> .default "version" (Decoder.nat versionLimit) 0
    <*> .nullable "submitted_at" Decoder.instant
    <*> .nullable "decision_at" Decoder.instant
    <*> .nullable "actioned_by" UserId.ofJson
    <*> .nullable "actioned_at" Decoder.instant
    <*> .nullable "expires_at" Decoder.instant
    <*> .nullable "follow_up_date" Decoder.instant
    <*> .nullable "deleted_at" Decoder.instant

/-- The application of a document. -/
def ofJson : Decoder Application :=
  shape.decode

end Application

end Rehoming
