import Rehoming.Batch
import Rehoming.Decision
import Rehoming.Edit
import Rehoming.Reference.Update
import Rehoming.Wire.Application
/-!
# Requests in JSON

The written forms of what callers send in.  Fields that need not be given may be null or
absent.
-/

namespace Rehoming

open Json (Decoder Shape)

/-- The written form of a reference as the applicant gives it. -/
def ReferenceInput.shape : Shape ReferenceInput :=
  ReferenceInput.mk <$> .optional "id" Decoder.text <*> .required "name" Decoder.text
    <*> .required "relationship" Decoder.text <*> .required "phone" Decoder.text
    <*> .optional "email" Decoder.text

/-- References as an applicant gives them. -/
def ReferenceInput.list : Decoder (List ReferenceInput) :=
  Decoder.list ReferenceInput.shape.decode

/-- The written form of a submission. -/
def Submission.shape : Shape Submission :=
  Submission.mk <$> .required "pet_id" PetId.ofJson
    <*> .default "answers" Answers.ofJson []
    <*> .default "references" ReferenceInput.list []
    <*> .optional "priority" Priority.ofJson
    <*> .optional "notes" Decoder.text
    <*> .default "tags" Decoder.textSet TextSet.empty

/-- The written form of an edit. -/
def Edit.shape : Shape Edit :=
  Edit.mk <$> .optional "answers" Answers.ofJson
    <*> .optional "references" ReferenceInput.list
    <*> .optional "priority" Priority.ofJson
    <*> .optional "notes" Decoder.text
    <*> .optional "tags" Decoder.textSet
    <*> .optional "interview_notes" Decoder.text
    <*> .optional "home_visit_notes" Decoder.text
    <*> .optional "score" (Decoder.nat (Number.wordLimit 16))

/-- The written form of a decision. -/
def Decision.shape : Shape Decision :=
  Decision.mk <$> .required "status" Status.ofJson
    <*> .optional "rejection_reason" Decoder.text
    <*> .optional "notes" Decoder.text
    <*> .optional "follow_up_date" Decoder.instant

/-- The written form of a withdrawal. -/
def Withdrawal.shape : Shape Withdrawal :=
  Withdrawal.mk <$> .optional "reason" Decoder.text

/-- The written form of the choice of a stage. -/
def StageChoice.shape : Shape StageChoice :=
  StageChoice.mk <$> .required "stage" Stage.ofJson <*> .optional "notes" Decoder.text

/-- The written form of a report on the check of a reference. -/
def ReferenceUpdate.shape : Shape ReferenceUpdate :=
  ReferenceUpdate.mk <$> .optionalUnder ["reference_id", "referenceId"] Decoder.text
    <*> .optional "reference_index" (Decoder.nat (Number.wordLimit 64))
    <*> .required "status" ReferenceStatus.ofJson
    <*> .optional "notes" Decoder.text
    <*> .optional "contacted_at" Decoder.instant

/-- The written form of an upload. -/
def Upload.shape : Shape Upload :=
  Upload.mk <$> .required "document_type" Decoder.text <*> .required "file_name" Decoder.text
    <*> .required "file_url" Decoder.text

namespace Patch

/-- A patch as a document; fields that are not touched are left out. -/
def toJson (p : Patch) : Json :=
  .obj (Json.optional "status" Status.toJson p.status
    ++ Json.optional "priority" Priority.toJson p.priority
    ++ Json.optional "tags" (fun tags => Json.strings tags.toList) p.tags
    ++ Json.optional "notes" .str p.notes)

/-- The written form of a patch. -/
def shape : Shape Patch :=
  Patch.mk <$> .optional "status" Status.ofJson
    <*> .optional "priority" Priority.ofJson
    <*> .optional "tags" Decoder.textSet
    <*> .optional "notes" Decoder.text

/-- The patch of a document. -/
def ofJson : Decoder Patch :=
  shape.decode

end Patch

/-- The written form of a batch. -/
def Batch.shape : Shape Batch :=
  Batch.mk <$> .required "application_ids" (Decoder.list ApplicationId.ofJson)
    <*> .required "updates" Patch.ofJson

end Rehoming
