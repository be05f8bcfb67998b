import Rehoming.Proofs.Performing.Reading
import Rehoming.Proofs.Service.Telling
import Rehoming.Proofs.Sharing.Requests
import Rehoming.Proofs.Timeline.Numbers
/-!
# What the timelines tell to whom

Records keep their names, deleted or not, and every event in the timeline is about a record
that is stored.  So whoever is told of events by the summary of some timelines may view the
application that the events are about, or the application is deleted.
-/

namespace Rehoming

namespace World

variable {w : World} {call : Call} {id : ApplicationId} {last : Option ApplicationId}

/-- The record that was written last is stored. -/
theorem has_writtenLast (h : ∀ id, last = some id → w.records.Has id)
    (hid : call.writtenLast (answer call w).1 last = some id) :
  (answer call w).2.records.Has id
  := by
  rw [Call.writtenLast] at hid
  obtain ⟨hwritten, -⟩ | ⟨a, rfl, hwritten, hinsert⟩
      | ⟨a, expected, written, rfl, hwritten, hupdate⟩ := answer_cases call w
  · rw [hwritten] at hid
    exact has_answer (h id hid) call
  · rw [hwritten] at hid
    obtain rfl := Option.some.inj hid
    exact Records.has_of_insert hinsert
  · rw [hwritten] at hid
    obtain rfl := Option.some.inj hid
    obtain ⟨current, hcurrent, -, rfl, hrecords⟩ := Records.update_eq_ok_iff.mp hupdate
    have hstored : w.records.Has a.applicationId := by
      rw [Records.Has, hcurrent]
      rfl
    rw [hrecords]
    exact hstored.replace

/-- An event that is in the timeline after a call was there before, or it is what the call
tells. -/
theorem mem_timeline_answer {e : TimelineEvent} (h : e ∈ (answer call w).2.timeline) :
  e ∈ w.timeline ∨ call = .record e
  := by
  cases call with
  | record event =>
    rcases List.mem_append.mp h with h | h
    · exact .inl h
    · right
      rw [List.mem_singleton.mp h]
  | insert a =>
    left
    cases hinsert : w.records.insert a with
    | ok later =>
      rw [answer_insert_ok hinsert] at h
      exact h
    | error e =>
      rw [answer_insert_error hinsert] at h
      exact h
  | update a expected =>
    left
    cases hupdate : w.records.update a expected with
    | ok r =>
      obtain ⟨written, later⟩ := r
      rw [answer_update_ok hupdate] at h
      exact h
    | error e =>
      rw [answer_update_error hupdate] at h
      exact h
  | _ => exact .inl h

end World

/-! ### Clients -/

namespace System

variable {ι : Type} {ρ : ι → Type} {s : System ρ}

/-- The invariant of clients that tell of what they have written: every event is about a
stored record, and so will be what is left to be told. -/
structure Truthful (s : System ρ) : Prop where
  stored : ∀ e ∈ s.world.timeline, s.world.records.Has e.applicationId
  tells : ∀ i, ∃ last, (s.clients i).program.Tells (fun _ _ => True) last
    ∧ ∀ id, last = some id → s.world.records.Has id

theorem truthful_start {policy : Policy} {requests : ι → Request} {w : Rehoming.World}
    (hw : w.timeline = []) :
  (ofRequests policy requests w).Truthful
  := by
  constructor
  case stored =>
    intro e he
    change e ∈ w.timeline at he
    rw [hw] at he
    cases he
  case tells =>
    intro i
    use none
    constructor
    · apply Program.Tells.mono (fun _ _ _ => trivial) ((requests i).tells policy none)
    · rintro id ⟨⟩

variable [DecidableEq ι]

theorem Truthful.turn (h : s.Truthful) (t : Turn ι) :
  (s.turn t).Truthful
  := by
  apply turn_induction h
  intro call next hprogram
  obtain ⟨last, htells, hlast⟩ := h.tells t.client
  rw [hprogram] at htells
  constructor
  case stored =>
    intro e he
    have hbefore : s.world.records.Has e.applicationId := by
      obtain he | rfl := World.mem_timeline_answer he
      · exact h.stored e he
      · exact hlast _ htells.1
    exact World.has_answer (w := s.worldAt t) hbefore call
  case tells =>
    intro i
    by_cases hi : i = t.client
    · subst hi
      rw [answer_clients_self]
      use call.writtenLast (World.answer call (s.worldAt t)).1 last, htells.2 _
      intro id hid
      exact World.has_writtenLast (w := s.worldAt t) hlast hid
    · rw [answer_clients_of_ne hi]
      obtain ⟨last, htells, hlast⟩ := h.tells i
      use last, htells
      intro id hid
      exact World.has_answer (w := s.worldAt t) (hlast id hid) call

theorem Truthful.move (h : s.Truthful) (m : Move ι) :
  (s.move m).Truthful
  := by
  cases m with
  | refit directory questions => exact ⟨h.stored, h.tells⟩
  | turn t => exact h.turn t

theorem Truthful.run (h : s.Truthful) (moves : List (Move ι)) :
  (s.run moves).Truthful
  := by
  apply run_induction _ h
  intro m _ s hs
  exact hs.move m

end System

/-! ### Summaries -/

/-- A summary that counts events is about one of them. -/
theorem ActivitySummary.exists_event {ids : List ApplicationId} {events : List TimelineEvent}
    {id : ApplicationId} {summary : ActivitySummary} (h : (id, summary) ∈ ofMany ids events)
    (hevents : 0 < summary.totalEvents) :
  ∃ e ∈ events, e.applicationId = id
  := by
  obtain rfl := mem_ofMany h
  rw [of_eq] at hevents
  obtain ⟨e, he⟩ := List.exists_mem_of_length_pos hevents
  obtain ⟨hmem, hname⟩ := List.mem_filter.mp he
  use e, hmem, eq_of_beq hname

namespace World

variable {w : World} {actor : Actor} {ids : List ApplicationId} {id : ApplicationId}
  {summary : ActivitySummary} {summaries : List (ApplicationId × ActivitySummary)}

/-- Who gets summaries may view every application that they are about and that is not
deleted. -/
theorem mayDo_view_of_activity (h : (w.perform (Service.activity ids actor)).1 = .ok summaries)
    (hid : id ∈ ids) {a : Application} (ha : w.records.fetch id false = some a) :
  (actor.resolvedIn w.directory).mayDo .view a = true
  := by
  rw [perform_activity] at h
  cases hhidden : w.firstHidden (actor.resolvedIn w.directory) ids with
  | some b =>
    rw [hhidden] at h
    cases h
  | none =>
    have hvisible := List.findSome?_eq_none_iff.mp hhidden id hid
    rw [ha] at hvisible
    simpa using hvisible

/-- Events that are summed up are in the timeline, and about an application that was asked
about. -/
theorem exists_event_of_activity
    (h : (w.perform (Service.activity ids actor)).1 = .ok summaries)
    (hsummary : (id, summary) ∈ summaries) (hevents : 0 < summary.totalEvents) :
  id ∈ ids ∧ ∃ e ∈ w.timeline, e.applicationId = id
  := by
  rw [perform_activity] at h
  cases hhidden : w.firstHidden (actor.resolvedIn w.directory) ids with
  | some b =>
    rw [hhidden] at h
    cases h
  | none =>
    rw [hhidden] at h
    obtain rfl := Except.ok.inj h
    obtain ⟨e, he, rfl⟩ := ActivitySummary.exists_event hsummary hevents
    obtain ⟨hmem, hasked⟩ := List.mem_filter.mp he
    use by simpa using hasked, e, hmem

end World

namespace System

variable {ι : Type} [DecidableEq ι]

/-- Of clients that start with empty stores, whatever they ask for and in whatever order they
take their turns: an actor who gets a summary of the events of an application gets the numbers
of its timeline as well, unless the application is deleted.  Of a deleted one only an
administrator gets them; everyone else is told that it is not there. -/
theorem activity_visible_unless_deleted (policy : Policy) (requests : ι → Request)
    (w : Rehoming.World) (moves : List (Move ι)) (actor : Actor) (ids : List ApplicationId)
    (id : ApplicationId) (summary : ActivitySummary)
    (summaries : List (ApplicationId × ActivitySummary)) :
  let s := (ofRequests policy requests
    { w with records := [], timeline := [], audit := [] }).run moves
  (s.world.perform (Service.activity ids actor)).1 = .ok summaries →
  (id, summary) ∈ summaries → 0 < summary.totalEvents →
  ∃ a, s.world.records.find? id = some a
    ∧ ((a.isDeleted = false ∨ actor.role = .admin) →
        ∃ stats, (s.world.perform (Service.timelineStats id actor)).1 = .ok stats)
    ∧ (a.isDeleted = true → actor.role ≠ .admin →
        (s.world.perform (Service.timelineStats id actor)).1 = .error (.applicationNotFound id))
  := by
  intro s hok hsummary hevents
  have htruthful : s.Truthful := (truthful_start rfl).run moves
  obtain ⟨hid, e, he, hname⟩ := World.exists_event_of_activity hok hsummary hevents
  have hstored := htruthful.stored e he
  rw [hname] at hstored
  obtain ⟨a, ha⟩ := Option.isSome_iff_exists.mp hstored
  use a, ha
  constructor
  · intro hshown
    have hfetch : s.world.records.fetch id (actor.role == .admin) = some a :=
      Records.fetch_eq_some_iff.mpr ⟨ha, by simpa [or_comm] using hshown⟩
    have hview : (actor.resolvedIn s.world.directory).mayDo .view a = true := by
      obtain hlive | hadmin := hshown
      · exact World.mayDo_view_of_activity hok hid (Records.fetch_eq_some_iff.mpr ⟨ha, .inr hlive⟩)
      · rw [Actor.mayDo, Actor.resolvedIn_role, hadmin]
    rw [World.perform_timelineStats, hfetch]
    simp only [hview, if_true]
    exact ⟨_, rfl⟩
  · intro hdeleted hrole
    have hfetch : s.world.records.fetch id (actor.role == .admin) = none := by
      rw [Records.fetch, ha]
      simp [hdeleted, hrole]
    rw [World.perform_timelineStats, hfetch]

/-- The staff of the small run gets a summary of the application that is approved, and so its
numbers. -/
theorem approved_activity_visible :
  let w := (Demo.start.run Demo.approval).world
  ∃ summary : ActivitySummary,
    (w.perform (Service.activity [⟨"app-1"⟩] Demo.staff)).1 = .ok [(⟨"app-1"⟩, summary)]
    ∧ 0 < summary.totalEvents
    ∧ ∃ stats, (w.perform (Service.timelineStats ⟨"app-1"⟩ Demo.staff)).1 = .ok stats
  := by
  intro w
  let summary : ActivitySummary :=
    ⟨3, some (.ofSeconds 21 0),
      [(.statusUpdate, 1), (.applicationApproved, 1), (.systemAutoProgression, 1)]⟩
  have hok : (w.perform (Service.activity [⟨"app-1"⟩] Demo.staff)).1
      = .ok [(⟨"app-1"⟩, summary)] := by decide +kernel
  have hlive : (w.records.find? ⟨"app-1"⟩).map Application.isDeleted = some false := by
    decide +kernel
  have hevents : 0 < summary.totalEvents := by decide
  obtain ⟨a, ha, hshown, -⟩ := activity_visible_unless_deleted Demo.policy Demo.adoption
    Demo.informalWorld Demo.approval Demo.staff [⟨"app-1"⟩] ⟨"app-1"⟩ summary _ hok
    List.mem_cons_self hevents
  use summary, hok, hevents
  apply hshown
  left
  obtain ⟨b, hb, hlive⟩ := Option.map_eq_some_iff.mp hlive
  obtain rfl := Option.some.inj (ha.symm.trans hb)
  exact hlive

end System

/-! ### A deleted application -/

namespace Demo

/-- The adopter applies for a pet and deletes the application again, and the other adopter asks
what has happened to it. -/
def retraction : Fin 3 → Request
  | 0 => .mutation (.submit (submission rufus) adopter)
  | 1 => .mutation (.delete ⟨"app-1"⟩ adopter)
  | 2 => .activity [⟨"app-1"⟩] secondAdopter

/-- The three clients after the deletion, before the other adopter has asked. -/
def retracted : System fun i => (retraction i).Reply :=
  (System.ofRequests policy retraction
    { informalWorld with records := [], timeline := [], audit := [] }).run
      (turns 0 11 0 ++ turns 1 5 20)

/-- The other adopter learns how many events the deleted application has, which ones and when,
and is still told that the application is not there. -/
theorem activity_shows_deleted :
  ∃ summary : ActivitySummary,
    (retracted.world.perform (Service.activity [⟨"app-1"⟩] secondAdopter)).1
      = .ok [(⟨"app-1"⟩, summary)]
    ∧ 0 < summary.totalEvents
    ∧ (retracted.world.perform (Service.timelineStats ⟨"app-1"⟩ secondAdopter)).1
      = .error (.applicationNotFound ⟨"app-1"⟩)
  := by
  use ⟨1, some (.ofSeconds 4 0), [(.statusUpdate, 1)]⟩
  decide +kernel

end Demo

end Rehoming
