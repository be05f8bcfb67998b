import Rehoming.Proofs.Collection.Counting
import Rehoming.Proofs.Collection.Ordered
import Rehoming.Proofs.Collection.Tally
import Rehoming.Proofs.Timeline.Times
import Rehoming.Timeline.Activity
import Rehoming.Timeline.Query
/-!
# Timelines in numbers

What the numbers of some events say: how many events there are, kind by kind and author by
author, and when the first and the last of them happened.  They say so of the events in any
order.  One pass over the events of many timelines leads to a summary for each of them, which
says what the numbers of its own events say.
-/

namespace Rehoming

/-! ### Counts -/

section Counts

variable {events events' : List TimelineEvent}

namespace EventType

theorem mem_all (t : EventType) :
  t ∈ all
  := by
  cases t <;> decide

/-- How many of some events there are of each kind that occurs. -/
def counts (events : List TimelineEvent) : List (EventType × Nat) :=
  Tally.listing all fun t => events.countP (·.eventType == t)

/-- Events that are counted under their kinds one by one. -/
theorem foldl_count (events : List TimelineEvent) :
  (events.map (·.eventType)).foldl (fun counts t => Tally.count t counts) [] = counts events
  := by
  have hasymm : ∀ a b : EventType, a < b → ¬ b < a := fun _ _ => Nat.lt_asymm
  rw [Tally.foldl_count_nil hasymm (by decide) fun t _ => mem_all t, counts]
  simp only [List.count_eq_countP, List.countP_map]
  rfl

/-- Every event is counted under its kind. -/
theorem sum_counts :
  ((counts events).map Prod.snd).sum = events.length
  := by
  rw [counts, Tally.sum_listing]
  exact sum_countP_key_eq_length TimelineEvent.eventType (by decide) fun e _ => mem_all e.eventType

theorem counts_perm (h : events.Perm events') :
  counts events = counts events'
  := by
  simp only [counts, h.countP_eq]

end EventType

namespace TimelineEvent

/-- The authors of some events, each once. -/
def authors (events : List TimelineEvent) : List UserId :=
  (TextSet.ofList (events.filterMap fun e => e.createdBy.map (·.text))).toList.map UserId.mk

theorem mem_authors {author : UserId} :
  author ∈ authors events ↔ ∃ e ∈ events, e.createdBy = some author
  := by
  simp only [authors, List.mem_map, TextSet.mem_ofList, List.mem_filterMap, Option.map_eq_some_iff]
  constructor
  · rintro ⟨_, ⟨e, he, author, hauthor, rfl⟩, rfl⟩
    exact ⟨e, he, hauthor⟩
  · rintro ⟨e, he, hauthor⟩
    exact ⟨author.text, ⟨e, he, author, hauthor, rfl⟩, rfl⟩

theorem pairwise_authors (events : List TimelineEvent) :
  (authors events).Pairwise (· < ·)
  := List.pairwise_map.mpr (TextSet.increasing _)

theorem authors_perm (h : events.Perm events') :
  authors events = authors events'
  := by
  have hsame : TextSet.ofList (events.filterMap fun e => e.createdBy.map (·.text))
      = TextSet.ofList (events'.filterMap fun e => e.createdBy.map (·.text)) := by
    apply TextSet.ext_mem
    intro s
    rw [TextSet.mem_ofList, TextSet.mem_ofList, (h.filterMap _).mem_iff]
  rw [authors, hsame, authors]

/-- How many of some events each of their authors has brought about. -/
def activity (events : List TimelineEvent) : List (UserId × Nat) :=
  Tally.listing (authors events) fun author => events.countP (·.createdBy == some author)

/-- Events that are counted under their authors one by one. -/
theorem foldl_count (events : List TimelineEvent) :
  (events.filterMap (·.createdBy)).foldl (fun activity author => Tally.count author activity) []
    = activity events
  := by
  have hasymm : ∀ a b : UserId, a < b → ¬ b < a := fun _ _ => String.lt_asymm
  have hauthors : ∀ author ∈ events.filterMap (·.createdBy), author ∈ authors events := by
    intro author hmem
    rw [mem_authors]
    exact List.mem_filterMap.mp hmem
  rw [Tally.foldl_count_nil hasymm (pairwise_authors events) hauthors, activity]
  congr 1
  funext author
  rw [List.count_eq_countP, List.countP_filterMap]
  apply List.countP_congr
  intro e _
  cases e.createdBy <;> simp

/-- No event is counted for two authors. -/
theorem sum_activity_le :
  ((activity events).map Prod.snd).sum ≤ events.length
  := by
  have hdifferent : (authors events).Nodup := by
    apply (pairwise_authors events).imp
    rintro author _ h rfl
    exact String.lt_irrefl _ h
  have hle := sum_countP_key_le_length createdBy
    (hdifferent.map fun _ _ => Option.some.inj) events
  rw [List.map_map] at hle
  rw [activity, Tally.sum_listing]
  exact hle

theorem activity_perm (h : events.Perm events') :
  activity events = activity events'
  := by
  simp only [activity, authors_perm h, h.countP_eq]

end TimelineEvent

end Counts

/-! ### One pass over the events of a timeline -/

section Passes

variable {events events' : List TimelineEvent}

namespace TimelineStats

/-- Each of the numbers has a pass of its own over the events. -/
theorem foldl_add (events : List TimelineEvent) (stats : TimelineStats) :
  events.foldl add stats
    = { totalEvents := stats.totalEvents
        eventsByType := (events.map (·.eventType)).foldl (fun counts t => Tally.count t counts)
          stats.eventsByType
        firstEvent := TimelineEvent.chosenTime .min stats.firstEvent events
        lastEvent := TimelineEvent.chosenTime .max stats.lastEvent events
        staffActivity := (events.filterMap (·.createdBy)).foldl
          (fun activity author => Tally.count author activity) stats.staffActivity }
  := by
  induction events generalizing stats with
  | nil => rfl
  | cons e rest ih =>
    rw [List.foldl_cons, ih, add, List.filterMap_cons]
    cases e.createdBy <;> rfl

theorem of_eq (events : List TimelineEvent) :
  of events
    = { totalEvents := events.length
        eventsByType := EventType.counts events
        firstEvent := TimelineEvent.chosenTime .min none events
        lastEvent := TimelineEvent.chosenTime .max none events
        staffActivity := TimelineEvent.activity events }
  := by
  rw [of, foldl_add, EventType.foldl_count, TimelineEvent.foldl_count]

end TimelineStats

namespace ActivitySummary

/-- The events of one application as a summary. -/
def of (events : List TimelineEvent) : ActivitySummary :=
  events.foldl add {}

/-- The last activity, after one more event, is the later one of the two. -/
theorem later_eq_max (t : Option Time.Instant) (now : Time.Instant) :
  (if t.all (· < now) then some now else t) = some ((t.map (·.max now)).getD now)
  := by
  cases t with
  | none => rfl
  | some last =>
    simp only [Option.all_some, decide_eq_true_iff, Option.map_some, Option.getD_some, Time.Instant.max]
    split
    next hlt => rw [if_pos (Time.Instant.le_iff.mpr (Int.le_of_lt (Time.Instant.lt_iff.mp hlt)))]
    next hlt =>
      split
      next hle => rw [Time.Instant.le_antisymm hle (Time.Instant.le_iff.mpr (Int.not_lt.mp hlt))]
      next => rfl

/-- Each part of the summary has a pass of its own over the events. -/
theorem foldl_add (events : List TimelineEvent) (summary : ActivitySummary) :
  events.foldl add summary
    = { totalEvents := summary.totalEvents + events.length
        lastActivity := TimelineEvent.chosenTime .max summary.lastActivity events
        eventTypeCounts := (events.map (·.eventType)).foldl (fun counts t => Tally.count t counts)
          summary.eventTypeCounts }
  := by
  induction events generalizing summary with
  | nil => rfl
  | cons e rest ih =>
    rw [List.foldl_cons, ih, add, later_eq_max, List.length_cons, Nat.add_right_comm]
    rfl

theorem of_eq (events : List TimelineEvent) :
  of events
    = { totalEvents := events.length
        lastActivity := TimelineEvent.chosenTime .max none events
        eventTypeCounts := EventType.counts events }
  := by
  rw [of, foldl_add, EventType.foldl_count, Nat.zero_add]

/-- A summary says what the numbers of the same events say. -/
theorem agrees (events : List TimelineEvent) :
  (of events).totalEvents = (TimelineStats.of events).totalEvents
  ∧ (of events).lastActivity = (TimelineStats.of events).lastEvent
  ∧ (of events).eventTypeCounts = (TimelineStats.of events).eventsByType
  := by
  rw [of_eq, TimelineStats.of_eq]
  exact ⟨rfl, rfl, rfl⟩

/-! ### One pass over the events of many timelines -/

/-- One pass over the events of many applications is, for each summary, a pass over those of its
application. -/
theorem foldl_addTo (events : List TimelineEvent) (summaries : List (ApplicationId × ActivitySummary)) :
  events.foldl addTo summaries
    = summaries.map fun (id, summary) =>
        (id, (events.filter (·.applicationId == id)).foldl add summary)
  := by
  induction events generalizing summaries with
  | nil => simp
  | cons e rest ih =>
    rw [List.foldl_cons, ih, addTo, List.map_map]
    apply List.map_congr_left
    rintro ⟨id, summary⟩ _
    by_cases hid : id = e.applicationId
    · simp [hid]
    · simp [hid, Ne.symm hid]

theorem ofMany_eq (ids : List ApplicationId) (events : List TimelineEvent) :
  ofMany ids events
    = (TextSet.ofList (ids.map (·.text))).toList.map fun id =>
        (⟨id⟩, of (events.filter (·.applicationId == ⟨id⟩)))
  := by
  rw [ofMany, foldl_addTo, List.map_map]
  rfl

end ActivitySummary

end Passes

/-! ### All numbers together -/

section Numbers

variable {events events' : List TimelineEvent}

/-- That a timeline in numbers is that of some events: it counts them all, kind by kind none is
left out, author by author none is counted twice, and they lie between the two times, which are
times of theirs. -/
structure TimelineStats.Measures (stats : TimelineStats) (events : List TimelineEvent) : Prop where
  total : stats.totalEvents = events.length
  kinds : (stats.eventsByType.map Prod.snd).sum = stats.totalEvents
  authors : (stats.staffActivity.map Prod.snd).sum ≤ stats.totalEvents
  untimed : events = [] → stats.firstEvent = none ∧ stats.lastEvent = none
  timed : events ≠ [] → ∃ first last, stats.firstEvent = some first ∧ stats.lastEvent = some last
    ∧ first ≤ last
    ∧ (∃ e ∈ events, e.createdAt = first) ∧ (∃ e ∈ events, e.createdAt = last)
    ∧ ∀ e ∈ events, first ≤ e.createdAt ∧ e.createdAt ≤ last

theorem TimelineStats.measures_of (events : List TimelineEvent) :
  (of events).Measures events
  := by
  rw [of_eq]
  constructor
  case total => rfl
  case kinds => exact EventType.sum_counts
  case authors => exact TimelineEvent.sum_activity_le
  case untimed =>
    rintro rfl
    exact ⟨rfl, rfl⟩
  case timed =>
    intro hevents
    obtain ⟨first, hfirst, ⟨e, he, htime⟩, hall⟩ :=
      Time.Instant.choice_min.exists_chosenTime hevents
    obtain ⟨last, hlast, hlater, hall'⟩ := Time.Instant.choice_max.exists_chosenTime hevents
    refine ⟨first, last, hfirst, hlast, ?_, ⟨e, he, htime⟩, hlater, ?_⟩
    · rw [← htime]
      exact hall' e he
    · intro e' he'
      exact ⟨hall e' he', hall' e' he'⟩

/-- The order of the events does not matter. -/
theorem TimelineStats.of_perm (h : events.Perm events') :
  of events = of events'
  := by
  simp only [of_eq, EventType.counts_perm h, Time.Instant.choice_min.chosenTime_perm h,
    Time.Instant.choice_max.chosenTime_perm h, TimelineEvent.activity_perm h, h.length_eq]

/-- The order of the events does not matter. -/
theorem ActivitySummary.ofMany_perm (ids : List ApplicationId) (h : events.Perm events') :
  ofMany ids events = ofMany ids events'
  := by
  simp only [ofMany_eq, of_eq]
  apply List.map_congr_left
  intro id _
  have hof := h.filter fun e => e.applicationId == ApplicationId.mk id
  rw [EventType.counts_perm hof, Time.Instant.choice_max.chosenTime_perm hof, hof.length_eq]

/-- A query for nothing in particular shows all events. -/
theorem TimelineQuery.perm_apply_default (events : List TimelineEvent) :
  (({} : TimelineQuery).apply events).Perm events
  := by
  have hfilter : (events.filter fun e => ({} : TimelineQuery).shows e.eventType) = events :=
    List.filter_eq_self.mpr fun e _ => rfl
  rw [apply, selected, hfilter]
  exact List.mergeSort_perm ..

/-- Every application asked for has its events summed up once, and nothing else is. -/
theorem ActivitySummary.keys_ofMany (ids : List ApplicationId) (events : List TimelineEvent) :
  ((ofMany ids events).map Prod.fst).Nodup ∧ ∀ id, id ∈ (ofMany ids events).map Prod.fst ↔ id ∈ ids
  := by
  have hkeys : (ofMany ids events).map Prod.fst
      = (TextSet.ofList (ids.map (·.text))).toList.map ApplicationId.mk := by
    rw [ofMany_eq, List.map_map]
    rfl
  rw [hkeys]
  constructor
  · apply (TextSet.nodup _).map
    intro a b h
    exact congrArg ApplicationId.text h
  · intro id
    simp only [List.mem_map, TextSet.mem_ofList]
    constructor
    · rintro ⟨_, ⟨id, hid, rfl⟩, rfl⟩
      exact hid
    · intro hid
      exact ⟨id.text, ⟨id, hid, rfl⟩, rfl⟩

theorem ActivitySummary.mem_ofMany {ids : List ApplicationId} {id : ApplicationId}
    {summary : ActivitySummary} (h : (id, summary) ∈ ofMany ids events) :
  summary = of (events.filter (·.applicationId == id))
  := by
  rw [ofMany_eq] at h
  obtain ⟨s, -, hentry⟩ := List.mem_map.mp h
  obtain ⟨rfl, rfl⟩ := Prod.mk.inj hentry
  rfl

end Numbers

end Rehoming
