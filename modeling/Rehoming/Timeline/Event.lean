import Rehoming.Application.Status
import Rehoming.Collection.Dictionary
import Rehoming.Ids
import Rehoming.Json.Basic
import Rehoming.Text.Ascii
import Rehoming.Time.Instant
/-!
# Timeline events

What has happened to an application, for its users to read: who did it, when, and in which
words, with the statuses and stages it led between and any further details.
-/

namespace Rehoming

/-- The kinds of events. -/
inductive EventType where
  | statusUpdate
  | applicationApproved
  | applicationRejected
  | applicationWithdrawn
  | documentUploaded
  | referenceContacted
  | referenceVerified
  | noteAdded
  | systemAutoProgression
  | stageChange
  deriving DecidableEq, Repr

namespace EventType

/-- Every kind. -/
def all : List EventType :=
  [statusUpdate, applicationApproved, applicationRejected, applicationWithdrawn, documentUploaded,
   referenceContacted, referenceVerified, noteAdded, systemAutoProgression, stageChange]

/-- The written form. -/
def label : EventType → String
  | statusUpdate => "status_update"
  | applicationApproved => "application_approved"
  | applicationRejected => "application_rejected"
  | applicationWithdrawn => "application_withdrawn"
  | documentUploaded => "document_uploaded"
  | referenceContacted => "reference_contacted"
  | referenceVerified => "reference_verified"
  | noteAdded => "note_added"
  | systemAutoProgression => "system_auto_progression"
  | stageChange => "stage_change"

/-- Kinds are in the order in which they are listed above. -/
instance : LT EventType := ⟨fun a b => a.ctorIdx < b.ctorIdx⟩

instance (a b : EventType) : Decidable (a < b) :=
  inferInstanceAs (Decidable (a.ctorIdx < b.ctorIdx))

/-- The kind of event by which an application comes to a status. -/
def ofStatus : Status → EventType
  | .approved => applicationApproved
  | .rejected => applicationRejected
  | .withdrawn => applicationWithdrawn
  | .submitted => statusUpdate

end EventType

/-- Something that has happened to an application. -/
structure TimelineEvent where
  timelineId : String
  applicationId : ApplicationId
  eventType : EventType
  title : String
  description : Option String
  /-- Nobody, if it happened by itself. -/
  createdBy : Option UserId
  createdBySystem : Bool
  previousStatus : Option Status
  newStatus : Option Status
  previousStage : Option Stage
  newStage : Option Stage
  metadata : List (String × Json)
  createdAt : Time.Instant

namespace TimelineEvent

/-- An event that someone has brought about. -/
def authored (id : String) (application : ApplicationId) (eventType : EventType) (title : String)
    (author : UserId) (now : Time.Instant) : TimelineEvent where
  timelineId := id
  applicationId := application
  eventType
  title
  description := none
  createdBy := some author
  createdBySystem := false
  previousStatus := none
  newStatus := none
  previousStage := none
  newStage := none
  metadata := []
  createdAt := now

/-- An event that happened by itself. -/
def automatic (id : String) (application : ApplicationId) (eventType : EventType) (title : String)
    (now : Time.Instant) : TimelineEvent :=
  { authored id application eventType title ⟨""⟩ now with createdBy := none, createdBySystem := true }

/-- The event with a description. -/
def describe (e : TimelineEvent) (s : String) : TimelineEvent :=
  { e with description := some s }

/-- The event with the statuses it led between. -/
def statuses (e : TimelineEvent) (previous : Option Status) (new : Status) : TimelineEvent :=
  { e with previousStatus := previous, newStatus := some new }

/-- The event with the stages it led between. -/
def stages (e : TimelineEvent) (previous : Option Stage) (new : Stage) : TimelineEvent :=
  { e with previousStage := previous, newStage := some new }

/-- The event with a detail. -/
def detail (e : TimelineEvent) (key : String) (value : Json) : TimelineEvent :=
  { e with metadata := Dictionary.insert key value e.metadata }

/-- A stage that someone has chosen. -/
def stageChosen (id : String) (application : ApplicationId) (previous new : Stage) (author : UserId)
    (now : Time.Instant) : TimelineEvent :=
  (authored id application .stageChange
      ("Stage changed from " ++ previous.label ++ " to " ++ new.label) author now)
    |>.describe new.description
    |>.stages (some previous) new
    |>.detail "automated" (.bool false)

/-- A stage that something else has settled. -/
def stageSettled (id : String) (application : ApplicationId) (cause : String) (previous new : Stage)
    (now : Time.Instant) : TimelineEvent :=
  (automatic id application .systemAutoProgression "Automatic stage progression" now)
    |>.describe ("System automatically moved application from " ++ previous.label ++ " to " ++ new.label
      ++ " due to: " ++ cause)
    |>.stages (some previous) new
    |>.detail "trigger" (.str cause)
    |>.detail "automated" (.bool true)

/-- The first hundred characters of a text, with three dots if there are more. -/
def excerpt (s : String) : String :=
  if 100 < s.length then String.ofList (s.toList.take 100) ++ "..." else s

/-- A note of some kind. -/
def noteAdded (id : String) (application : ApplicationId) (kind content : String) (author : UserId)
    (now : Time.Instant) : TimelineEvent :=
  (authored id application .noteAdded (Text.asciiCapitalized kind ++ " note added") author now)
    |>.describe (excerpt content)
    |>.detail "note_type" (.str kind)
    |>.detail "full_content" (.str content)

end TimelineEvent

end Rehoming
