import Rehoming.Timeline.Activity
import Rehoming.Timeline.Query
import Rehoming.Wire.Mark
/-!
# Timelines and audit entries in JSON

Events write every field, with null for those that are missing.  Counts are objects with the
names of what is counted as keys.
-/

namespace Rehoming

open Json (Decoder Shape)

namespace TimelineEvent

/-- An event as the members of an object. -/
def members (e : TimelineEvent) : List (String × Json) :=
  [("timeline_id", .str e.timelineId),
   ("application_id", e.applicationId.toJson),
   ("event_type", e.eventType.toJson),
   ("title", .str e.title),
   ("description", Json.orNull .str e.description),
   ("created_by", Json.orNull UserId.toJson e.createdBy),
   ("created_by_system", .bool e.createdBySystem),
   ("previous_status", Json.orNull Status.toJson e.previousStatus),
   ("new_status", Json.orNull Status.toJson e.newStatus),
   ("previous_stage", Json.orNull Stage.toJson e.previousStage),
   ("new_stage", Json.orNull Stage.toJson e.newStage),
   ("metadata", .obj e.metadata),
   ("created_at", e.createdAt.toJson)]

/-- An event as a document. -/
def toJson (e : TimelineEvent) : Json :=
  .obj e.members

/-- The written form of an event. -/
def shape : Shape TimelineEvent :=
  TimelineEvent.mk <$> .required "timeline_id" Decoder.text
    <*> .required "application_id" ApplicationId.ofJson
    <*> .required "event_type" EventType.ofJson
    <*> .required "title" Decoder.text
    <*> .nullable "description" Decoder.text
    <*> .nullable "created_by" UserId.ofJson
    <*> .required "created_by_system" Decoder.bool
    <*> .nullable "previous_status" Status.ofJson
    <*> .nullable "new_status" Status.ofJson
    <*> .nullable "previous_stage" Stage.ofJson
    <*> .nullable "new_stage" Stage.ofJson
    <*> .required "metadata" Decoder.members
    <*> .required "created_at" Decoder.instant

end TimelineEvent

/-- The limit of counts of events. -/
def countLimit : Nat := Number.wordLimit 64

/-- The written form of a timeline query. -/
def TimelineQuery.shape : Shape TimelineQuery :=
  TimelineQuery.mk <$> .default "event_types" (Decoder.list EventType.ofJson) []
    <*> .optional "limit" (Decoder.nat countLimit)
    <*> .optional "offset" (Decoder.nat countLimit)

/-- Counts of kinds of events as a document. -/
def EventType.countsToJson (counts : List (EventType × Nat)) : Json :=
  .obj (counts.map fun (t, n) => (t.name, .nat n))

/-- A timeline in numbers as a document. -/
def TimelineStats.toJson (s : TimelineStats) : Json :=
  .obj
    [("total_events", .nat s.totalEvents),
     ("events_by_type", EventType.countsToJson s.eventsByType),
     ("first_event", Json.orNull Time.Instant.toJson s.firstEvent),
     ("last_event", Json.orNull Time.Instant.toJson s.lastEvent),
     ("staff_activity", .obj (s.staffActivity.map fun (user, n) => (user.text, .nat n)))]

/-- A summary as a document. -/
def ActivitySummary.toJson (s : ActivitySummary) : Json :=
  .obj
    [("total_events", .nat s.totalEvents),
     ("last_activity", Json.orNull Time.Instant.toJson s.lastActivity),
     ("event_type_counts", EventType.countsToJson s.eventTypeCounts)]

/-- Summaries by application as a document. -/
def ActivitySummary.manyToJson (l : List (ApplicationId × ActivitySummary)) : Json :=
  .obj (l.map fun (id, s) => (id.text, s.toJson))

namespace AuditEntry

/-- An entry of the audit log as a document. -/
def toJson (e : AuditEntry) : Json :=
  .obj
    [("id", .str e.id), ("action", .str e.action.label), ("entity", .str e.entity),
     ("entity_id", .str e.entityId), ("user_id", e.userId.toJson), ("details", e.details),
     ("created_at", e.createdAt.toJson)]

/-- Any document without flaws, as the details of an entry. -/
def detailsOf : Decoder Json :=
  fun j => if j.isSound then .ok (Json.settled j) else .error .unreadable

/-- The written form of an entry of the audit log. -/
def shape : Shape AuditEntry :=
  AuditEntry.mk <$> .required "id" Decoder.text
    <*> .required "action" AuditAction.ofJson
    <*> .required "entity" Decoder.text
    <*> .required "entity_id" Decoder.text
    <*> .required "user_id" UserId.ofJson
    <*> .required "details" detailsOf
    <*> .required "created_at" Decoder.instant

end AuditEntry

end Rehoming
