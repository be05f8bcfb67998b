import Rehoming.Wire.Application
/-!
# Searches in JSON

Filters leave out what is not given, an empty list of tags, and the wish for deleted
applications when there is none.  A filter on statuses or priorities is one value or a list.
-/

namespace Rehoming

open Json (Decoder Shape)

namespace OneOrMany

/-- One value as itself, and several as an array. -/
def toJson {α : Type} (f : α → Json) : OneOrMany α → Json
  | one a => f a
  | many l => .arr (l.map f)

/-- One value or an array of values. -/
def ofSound {α : Type} (d : Decoder α) : Decoder (OneOrMany α) :=
  fun j =>
    match d j with
    | .ok a => .ok (one a)
    | .error _ => (Decoder.list d j).map many

/-- One value or an array of values, read to its end before it is looked at. -/
def ofJson {α : Type} (d : Decoder α) : Decoder (OneOrMany α) :=
  Decoder.buffered (ofSound d)

end OneOrMany

namespace Filters

/-- Filters as a document. -/
def toJson (f : Filters) : Json :=
  .obj (Json.optional "status" (OneOrMany.toJson Status.toJson) f.status
    ++ Json.optional "priority" (OneOrMany.toJson Priority.toJson) f.priority
    ++ Json.optional "user_id" UserId.toJson f.userId
    ++ Json.optional "pet_id" PetId.toJson f.petId
    ++ Json.optional "rescue_id" RescueId.toJson f.rescueId
    ++ Json.optional "actioned_by" UserId.toJson f.actionedBy
    ++ Json.optional "score_min" .nat f.scoreMin
    ++ Json.optional "score_max" .nat f.scoreMax
    ++ (if f.tags.isEmpty then [] else [("tags", Json.strings f.tags)])
    ++ Json.optional "search" .str f.search
    ++ Json.optional "has_interview_notes" .bool f.hasInterviewNotes
    ++ Json.optional "has_home_visit_notes" .bool f.hasHomeVisitNotes
    ++ Json.optional "created_from" Time.Instant.toJson f.createdFrom
    ++ Json.optional "created_to" Time.Instant.toJson f.createdTo
    ++ Json.optional "submitted_from" Time.Instant.toJson f.submittedFrom
    ++ Json.optional "submitted_to" Time.Instant.toJson f.submittedTo
    ++ (if f.includeDeleted then [("include_deleted", .bool true)] else []))

/-- The written form of filters. -/
def shape : Shape Filters :=
  Filters.mk <$> .optional "status" (OneOrMany.ofJson Status.ofJson)
    <*> .optional "priority" (OneOrMany.ofJson Priority.ofJson)
    <*> .optional "user_id" UserId.ofJson
    <*> .optional "pet_id" PetId.ofJson
    <*> .optional "rescue_id" RescueId.ofJson
    <*> .optional "actioned_by" UserId.ofJson
    <*> .optional "score_min" (Decoder.nat scoreLimit)
    <*> .optional "score_max" (Decoder.nat scoreLimit)
    <*> .default "tags" (Decoder.list Decoder.text) []
    <*> .optional "search" Decoder.text
    <*> .optional "has_interview_notes" Decoder.bool
    <*> .optional "has_home_visit_notes" Decoder.bool
    <*> .optional "created_from" Decoder.instant
    <*> .optional "created_to" Decoder.instant
    <*> .optional "submitted_from" Decoder.instant
    <*> .optional "submitted_to" Decoder.instant
    <*> .default "include_deleted" Decoder.bool false

/-- The filters of a document. -/
def ofJson : Decoder Filters :=
  shape.decode

end Filters

/-- The limit of page numbers and page sizes. -/
def pageLimit : Nat := Number.wordLimit 32

/-- The written form of search options. -/
def SearchOptions.shape : Shape SearchOptions :=
  SearchOptions.mk <$> .optional "page" (Decoder.nat pageLimit)
    <*> .optional "limit" (Decoder.nat pageLimit)
    <*> .optional "sort_by" SortField.ofJson
    <*> .optional "sort_order" SortOrder.ofJson

/-- The place of a page as a document. -/
def Pagination.toJson (p : Pagination) : Json :=
  .obj
    [("page", .nat p.page), ("limit", .nat p.limit), ("total", .nat p.total),
     ("totalPages", .nat p.totalPages), ("hasNext", .bool p.hasNext), ("hasPrev", .bool p.hasPrev)]

/-- The answer to a search as a document. -/
def SearchResult.toJson (r : SearchResult) : Json :=
  .obj
    [("applications", .arr (r.applications.map Application.toJson)),
     ("pagination", r.pagination.toJson),
     ("filters_applied", r.filtersApplied.toJson)]

end Rehoming
