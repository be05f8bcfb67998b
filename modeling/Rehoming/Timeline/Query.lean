import Rehoming.Timeline.Event
/-!
# Timeline queries

Which events of a timeline to show: those of some kinds, newest first, from one place on and
up to some number.  Events of the same time stay in the order in which they were recorded.
-/

namespace Rehoming

/-- Which events to show. -/
structure TimelineQuery where
  eventTypes : List EventType := []
  limit : Option Nat := none
  offset : Option Nat := none
  deriving DecidableEq, Repr

namespace TimelineQuery

/-- Whether events of a kind are shown; without any kinds, all are. -/
def shows (q : TimelineQuery) (t : EventType) : Bool :=
  q.eventTypes.isEmpty || q.eventTypes.contains t

/-- The events of the kinds shown, newest first. -/
def selected (q : TimelineQuery) (events : List TimelineEvent) : List TimelineEvent :=
  (events.filter fun e => q.shows e.eventType).mergeSort fun a b => decide (b.createdAt ≤ a.createdAt)

/-- The events to show. -/
def apply (q : TimelineQuery) (events : List TimelineEvent) : List TimelineEvent :=
  let rest := (q.selected events).drop (q.offset.getD 0)
  match q.limit with
  | none => rest
  | some n => rest.take n

end TimelineQuery

end Rehoming
