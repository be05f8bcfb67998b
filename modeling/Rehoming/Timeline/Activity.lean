import Rehoming.Collection.Tally
import Rehoming.Collection.TextSet
import Rehoming.Timeline.Event
/-!
# Timeline activity

Events in numbers: how many there are, of which kinds, by whom, and when the first and the
last of them happened.  The numbers of one timeline are taken from its events, one after the
other; those of many timelines are taken from all their events in one pass.
-/

namespace Rehoming

/-- The timeline of an application in numbers. -/
structure TimelineStats where
  totalEvents : Nat
  eventsByType : List (EventType × Nat) := []
  firstEvent : Option Time.Instant := none
  lastEvent : Option Time.Instant := none
  staffActivity : List (UserId × Nat) := []
  deriving DecidableEq, Repr

namespace TimelineStats

/-- The numbers after one more of the events, all of which are in the total already. -/
def add (stats : TimelineStats) (e : TimelineEvent) : TimelineStats :=
  { stats with
    eventsByType := Tally.count e.eventType stats.eventsByType
    firstEvent := some ((stats.firstEvent.map (·.min e.createdAt)).getD e.createdAt)
    lastEvent := some ((stats.lastEvent.map (·.max e.createdAt)).getD e.createdAt)
    staffActivity :=
      match e.createdBy with
      | some author => Tally.count author stats.staffActivity
      | none => stats.staffActivity }

/-- Some events in numbers. -/
def of (events : List TimelineEvent) : TimelineStats :=
  events.foldl add { totalEvents := events.length }

end TimelineStats

/-- What has happened to an application lately. -/
structure ActivitySummary where
  totalEvents : Nat := 0
  lastActivity : Option Time.Instant := none
  eventTypeCounts : List (EventType × Nat) := []
  deriving DecidableEq, Repr

namespace ActivitySummary

/-- The summary with one more event. -/
def add (summary : ActivitySummary) (e : TimelineEvent) : ActivitySummary where
  totalEvents := summary.totalEvents + 1
  lastActivity :=
    if summary.lastActivity.all (· < e.createdAt) then some e.createdAt else summary.lastActivity
  eventTypeCounts := Tally.count e.eventType summary.eventTypeCounts

/-- The summaries with one more event, unless its application has no summary. -/
def addTo (summaries : List (ApplicationId × ActivitySummary)) (e : TimelineEvent) :
    List (ApplicationId × ActivitySummary) :=
  summaries.map fun (id, summary) => (id, if id = e.applicationId then summary.add e else summary)

/-- A summary for each of some applications, those without events included. -/
def ofMany (ids : List ApplicationId) (events : List TimelineEvent) :
    List (ApplicationId × ActivitySummary) :=
  events.foldl addTo ((TextSet.ofList (ids.map (·.text))).toList.map fun id => (⟨id⟩, {}))

end ActivitySummary

end Rehoming
