import Rehoming.Proofs.Performing.Reading
import Rehoming.Proofs.Sharing.Requests
import Rehoming.Proofs.Timeline.Numbers
/-!
# Timelines in numbers, one by one and together

The events of an application are put into numbers in two ways: in all detail, for who asks for
that application, and as a summary, for who asks for many.  Both say the same of an application,
and neither depends on the order in which the events were recorded.
-/

namespace Rehoming

section

variable {w : World} {actor : Actor} {ids : List ApplicationId} {id : ApplicationId}
  {stats : TimelineStats} {summaries : List (ApplicationId × ActivitySummary)}

/-- The detailed numbers are those of the events of the application. -/
theorem World.timelineStats_eq_of (h : (w.perform (Service.timelineStats id actor)).1 = .ok stats) :
  stats = .of (w.eventsOf id)
  := by
  rw [perform_timelineStats] at h
  split at h
  case h_1 => cases h
  case h_2 =>
    split at h
    case isFalse => cases h
    case isTrue =>
      obtain rfl := Except.ok.inj h
      exact TimelineStats.of_perm (TimelineQuery.perm_apply_default _)

/-- The summaries are those of the events of the applications asked for. -/
theorem World.activity_eq_ofMany (h : (w.perform (Service.activity ids actor)).1 = .ok summaries) :
  summaries = ActivitySummary.ofMany ids (w.eventsOfMany ids)
  := by
  rw [perform_activity] at h
  split at h
  case h_1 => exact (Except.ok.inj h).symm
  case h_2 => cases h

/-- Of the events of some applications, those of one of them are all of its events. -/
theorem World.filter_eventsOfMany (hid : id ∈ ids) :
  (w.eventsOfMany ids).filter (·.applicationId == id) = w.eventsOf id
  := by
  rw [eventsOfMany, eventsOf, List.filter_filter]
  apply List.filter_congr
  intro e _
  by_cases he : e.applicationId = id
  · simp [he, hid]
  · simp [he]

/-- The order of the events does not matter for the detailed numbers. -/
theorem World.timelineStats_perm {timeline : List TimelineEvent} (h : timeline.Perm w.timeline)
    (id : ApplicationId) (actor : Actor) :
  (World.perform { w with timeline } (Service.timelineStats id actor)).1
    = (w.perform (Service.timelineStats id actor)).1
  := by
  have hevents : (World.eventsOf { w with timeline } id).Perm (w.eventsOf id) := h.filter _
  have hstats : TimelineStats.of
        (({} : TimelineQuery).apply (World.eventsOf { w with timeline } id))
      = .of (({} : TimelineQuery).apply (w.eventsOf id)) :=
    TimelineStats.of_perm ((TimelineQuery.perm_apply_default _).trans
      (hevents.trans (TimelineQuery.perm_apply_default _).symm))
  rw [perform_timelineStats, perform_timelineStats, hstats]

/-- The order of the events does not matter for the summaries. -/
theorem World.activity_perm {timeline : List TimelineEvent} (h : timeline.Perm w.timeline)
    (ids : List ApplicationId) (actor : Actor) :
  (World.perform { w with timeline } (Service.activity ids actor)).1
    = (w.perform (Service.activity ids actor)).1
  := by
  have hsummaries : ActivitySummary.ofMany ids (World.eventsOfMany { w with timeline } ids)
      = ActivitySummary.ofMany ids (w.eventsOfMany ids) :=
    ActivitySummary.ofMany_perm ids (h.filter _)
  rw [perform_activity, perform_activity, hsummaries]
  rfl

end

/-- The detailed numbers of a timeline measure its events.  Summaries are given for just the
applications asked for, each once, and each says of its application what the detailed numbers say
of it: how many events there are, when the last of them happened, and how many there are of each
kind.  In whatever order the events have been recorded, the numbers are the same. -/
theorem activity_agrees_with_timelines (w : World) (actor : Actor) :
  (∀ id stats, (w.perform (Service.timelineStats id actor)).1 = .ok stats →
    stats.Measures (w.eventsOf id))
  ∧ (∀ ids summaries, (w.perform (Service.activity ids actor)).1 = .ok summaries →
    (summaries.map Prod.fst).Nodup
    ∧ (∀ id, id ∈ summaries.map Prod.fst ↔ id ∈ ids)
    ∧ ∀ id summary, (id, summary) ∈ summaries →
      (summary.eventTypeCounts.map Prod.snd).sum = summary.totalEvents
      ∧ ∀ stats, (w.perform (Service.timelineStats id actor)).1 = .ok stats →
        summary.totalEvents = stats.totalEvents
        ∧ summary.lastActivity = stats.lastEvent
        ∧ summary.eventTypeCounts = stats.eventsByType)
  ∧ ∀ timeline : List TimelineEvent, timeline.Perm w.timeline →
    (∀ id, (World.perform { w with timeline } (Service.timelineStats id actor)).1
      = (w.perform (Service.timelineStats id actor)).1)
    ∧ ∀ ids, (World.perform { w with timeline } (Service.activity ids actor)).1
      = (w.perform (Service.activity ids actor)).1
  := by
  refine ⟨?_, ?_, ?_⟩
  · intro id stats hstats
    rw [World.timelineStats_eq_of hstats]
    exact TimelineStats.measures_of _
  · intro ids summaries hsummaries
    obtain rfl := World.activity_eq_ofMany hsummaries
    obtain ⟨hnodup, hkeys⟩ := ActivitySummary.keys_ofMany ids (w.eventsOfMany ids)
    refine ⟨hnodup, hkeys, ?_⟩
    intro id summary hsummary
    have hid : id ∈ ids := (hkeys id).mp (List.mem_map_of_mem hsummary)
    obtain rfl := ActivitySummary.mem_ofMany hsummary
    rw [World.filter_eventsOfMany hid]
    constructor
    · rw [ActivitySummary.of_eq]
      exact EventType.sum_counts
    · intro stats hstats
      rw [World.timelineStats_eq_of hstats]
      exact ActivitySummary.agrees _
  · intro timeline hperm
    exact ⟨fun id => World.timelineStats_perm hperm id actor,
      fun ids => World.activity_perm hperm ids actor⟩

/-- The staff asks for both applications, for one of them twice, and gets two summaries; that of the
first application agrees with its numbers, which measure its one event. -/
theorem both_timelines_summed_up :
  ∃ summaries stats summary,
    (Demo.bothApplied.perform
      (Service.activity [⟨"app-2"⟩, ⟨"app-1"⟩, ⟨"app-2"⟩] Demo.staff)).1 = .ok summaries
    ∧ (Demo.bothApplied.perform (Service.timelineStats ⟨"app-1"⟩ Demo.staff)).1 = .ok stats
    ∧ (⟨"app-1"⟩, summary) ∈ summaries
    ∧ summaries.length = 2 ∧ summary.totalEvents = 1
    ∧ summary.lastActivity = stats.lastEvent
    ∧ stats.Measures (Demo.bothApplied.eventsOf ⟨"app-1"⟩)
  := by
  obtain ⟨hmeasures, hagree, -⟩ := activity_agrees_with_timelines Demo.bothApplied Demo.staff
  cases hsummaries : (Demo.bothApplied.perform
      (Service.activity [⟨"app-2"⟩, ⟨"app-1"⟩, ⟨"app-2"⟩] Demo.staff)).1 with
  | error e =>
    have hok : (Demo.bothApplied.perform
        (Service.activity [⟨"app-2"⟩, ⟨"app-1"⟩, ⟨"app-2"⟩] Demo.staff)).1.isOk = true := by
      decide +kernel
    rw [hsummaries] at hok
    cases hok
  | ok summaries =>
    cases hstats : (Demo.bothApplied.perform (Service.timelineStats ⟨"app-1"⟩ Demo.staff)).1 with
    | error e =>
      have hok : (Demo.bothApplied.perform
          (Service.timelineStats ⟨"app-1"⟩ Demo.staff)).1.isOk = true := by decide +kernel
      rw [hstats] at hok
      cases hok
    | ok stats =>
      have hone : (Demo.bothApplied.perform
          (Service.timelineStats ⟨"app-1"⟩ Demo.staff)).1.toOption.map
            TimelineStats.totalEvents = some 1 := by decide +kernel
      have htwo : (Demo.bothApplied.perform
          (Service.activity [⟨"app-2"⟩, ⟨"app-1"⟩, ⟨"app-2"⟩] Demo.staff)).1.toOption.map
            List.length = some 2 := by decide +kernel
      rw [hstats] at hone
      rw [hsummaries] at htwo
      obtain ⟨-, hkeys, hsummary⟩ := hagree _ summaries hsummaries
      obtain ⟨⟨_, summary⟩, hmem, rfl⟩ := List.mem_map.mp ((hkeys ⟨"app-1"⟩).mpr (by decide))
      obtain ⟨-, hagrees⟩ := hsummary _ summary hmem
      obtain ⟨htotal, hlast, -⟩ := hagrees stats hstats
      exact ⟨summaries, stats, summary, rfl, rfl, hmem, Option.some.inj htwo,
        htotal.trans (Option.some.inj hone), hlast, hmeasures _ stats hstats⟩

end Rehoming
