import Rehoming.Question.Report
import Rehoming.Statistics
import Rehoming.Wire.Mark
/-!
# Questions, reports and statistics in JSON
-/

namespace Rehoming

open Json (Decoder Shape)

/-- A refused field as a document. -/
def FieldError.toJson (e : FieldError) : Json :=
  .obj [("field", .str e.field), ("message", .str e.message), ("code", .str e.code)]

/-- Refused fields as a document. -/
def FieldError.listToJson (l : List FieldError) : Json :=
  .arr (l.map FieldError.toJson)

/-- A report on answers as a document. -/
def AnswerReport.toJson (r : AnswerReport) : Json :=
  .obj
    [("is_valid", .bool r.isValid),
     ("errors", FieldError.listToJson r.errors),
     ("completion_percentage", .nat r.completionPercentage),
     ("missing_required_fields", Json.strings r.missing)]

namespace Question

/-- A question as a document. -/
def toJson (q : Question) : Json :=
  .obj
    [("question_id", .str q.questionId),
     ("rescue_id", Json.orNull RescueId.toJson q.rescueId),
     ("question_key", .str q.key),
     ("scope", .str q.scope.label),
     ("category", .str q.category.label),
     ("question_type", .str q.kind.label),
     ("question_text", .str q.text),
     ("options", Json.strings q.options),
     ("display_order", .nat q.displayOrder),
     ("is_enabled", .bool q.isEnabled),
     ("is_required", .bool q.isRequired)]

/-- The written form of a question. -/
def shape : Shape Question :=
  Question.mk <$> .required "question_id" Decoder.text
    <*> .nullable "rescue_id" RescueId.ofJson
    <*> .required "question_key" Decoder.text
    <*> .required "scope" (Decoder.label Scope.all Scope.label)
    <*> .required "category" (Decoder.label Category.all Category.label)
    <*> .required "question_type" (Decoder.label QuestionKind.all QuestionKind.label)
    <*> .required "question_text" Decoder.text
    <*> .default "options" (Decoder.list Decoder.text) []
    <*> .required "display_order" (Decoder.nat (Number.wordLimit 16))
    <*> .required "is_enabled" Decoder.bool
    <*> .required "is_required" Decoder.bool

end Question

/-- Statistics as a document. -/
def Statistics.toJson (s : Statistics) : Json :=
  .obj (Json.optional "rescue_id" RescueId.toJson s.rescueId ++
    [("total_applications", .nat s.total),
     ("by_status", .obj (s.byStatus.map fun (status, n) => (status.label, .nat n))),
     ("by_priority", .obj (s.byPriority.map fun (priority, n) => (priority.label, .nat n))),
     ("pending_applications", .nat s.pending),
     ("approval_rate", .real s.approvalRate),
     ("rejection_rate", .real s.rejectionRate),
     ("withdrawal_rate", .real s.withdrawalRate)])

end Rehoming
