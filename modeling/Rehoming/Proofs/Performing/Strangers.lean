import Rehoming.Proofs.Performing.Blind
import Rehoming.Proofs.Performing.Reading
import Rehoming.Proofs.Search.Scope
/-!
# Strangers

Somebody who is neither the applicant of an application nor administers it learns nothing of
what is in it: whatever the stranger asks for is answered in the same way in two worlds that
differ only in the contents of the application and in its history, and leaves the application
as it is.
-/

namespace Rehoming

variable {d : Directory} {r r' : Application} {policy : Policy} {actor : Actor}
  {id : ApplicationId}

/-! ### Looking -/

section Looking

variable {w w' : World} (halike : World.Alike d r r' w w') (hout : r.Outlines r')
  (hdeleted : r.isDeleted = false)
  (hevents : w'.timeline.filter (fun e => e.applicationId ≠ r.applicationId)
    = w.timeline.filter fun e => e.applicationId ≠ r.applicationId)

include hevents in
/-- The history of other applications is the same. -/
theorem World.filter_timeline {p : TimelineEvent → Bool}
    (hp : ∀ e, p e = true → e.applicationId ≠ r.applicationId) :
  w'.timeline.filter p = w.timeline.filter p
  := by
  have hother : ∀ events : List TimelineEvent,
      (events.filter fun e => e.applicationId ≠ r.applicationId).filter p = events.filter p := by
    intro events
    rw [List.filter_filter]
    apply List.filter_congr
    intro e _
    cases he : p e with
    | false => rfl
    | true => simpa using hp e he
  rw [← hother, hevents, hother]

include hevents in
theorem World.eventsOf_eq (hid : id ≠ r.applicationId) :
  w'.eventsOf id = w.eventsOf id
  := by
  apply filter_timeline hevents
  intro e he
  rwa [eq_of_beq he]

include hout in
theorem Actor.StrangerTo.outlines (h : actor.StrangerTo r) :
  actor.StrangerTo r'
  := by
  constructor
  case notOwner =>
    rw [hout.userId]
    exact h.notOwner
  case notAdministrator =>
    rw [Administers, hout.rescueId]
    exact h.notAdministrator

/-- A stranger is no administrator. -/
theorem Actor.StrangerTo.role_ne (h : (actor.resolvedIn d).StrangerTo r) :
  (actor.role == .admin) = false
  := by
  rw [beq_eq_false_iff_ne]
  intro hrole
  apply h.notAdministrator
  left
  rwa [resolvedIn_role]

/-- The staff that may see the numbers of a rescue is the staff of that rescue. -/
theorem Service.statisticsScope_of_mayDoFor {rescue : Option RescueId} {a : Application}
    (hstranger : actor.StrangerTo a)
    (h : actor.mayDoFor .viewStatistics (statisticsScope actor rescue) = true) :
  ∃ own, actor.role = .rescueStaff ∧ actor.rescueId = some own ∧ statisticsScope actor rescue = some own
  := by
  cases hrole : actor.role with
  | admin => cases hstranger.notAdministrator (.inl hrole)
  | adopter => simp [Actor.mayDoFor, hrole] at h
  | rescueStaff =>
    have hscope : statisticsScope actor rescue = rescue.or actor.rescueId := by
      simp [statisticsScope, hrole]
    have hsearch : actor.mayDoFor .search (rescue.or actor.rescueId) = true := by
      rw [hscope] at h
      simpa [Actor.mayDoFor, hrole] using h
    obtain ⟨own, hown, hrescue⟩ := Actor.rescueId_of_mayDoFor_search hrole hsearch
    exact ⟨own, rfl, hown, hscope.trans hrescue⟩

/-- A search of a stranger finds nothing of the record. -/
theorem World.criteria_finds_eq_false {a : Application} {filters : Filters} {options : SearchOptions}
    (hstranger : actor.StrangerTo a)
    (hscope : actor.mayDoFor .search (Service.narrowed actor filters).rescueId = true) :
  (w.criteria policy (Service.narrowed actor filters) options).finds a = false
  := by
  by_contra hfinds
  rw [Bool.not_eq_false] at hfinds
  obtain ⟨-, hview, -⟩ := (Service.narrowed_wants_iff hscope).mp (Filters.wants_iff.mp hfinds)
  rw [hstranger.mayDo_eq_false] at hview
  cases hview

namespace World.Alike

variable (hstranger : (actor.resolvedIn d).StrangerTo r)

include halike hout hstranger

theorem search_eq (filters : Filters) (options : SearchOptions) :
  (w'.perform (Service.search policy filters options actor)).1
    = (w.perform (Service.search policy filters options actor)).1
  := by
  obtain rfl := halike.directory
  rw [perform_search, perform_search, halike.directory']
  simp only
  split
  case isFalse => rfl
  next hscope =>
    obtain ⟨timeline, audit, rfl⟩ := halike.differ
    have hpage : (w.records.replace r').search
          (w.criteria policy (Service.narrowed (actor.resolvedIn w.directory) filters) options)
        = w.records.search
          (w.criteria policy (Service.narrowed (actor.resolvedIn w.directory) filters) options) := by
      rw [Records.search, Records.search, Criteria.pageOf, Criteria.pageOf, Criteria.sorted,
        Criteria.sorted, halike.holds.filter_replace hout.applicationId]
      · exact criteria_finds_eq_false hstranger hscope
      · exact criteria_finds_eq_false (hstranger.outlines hout) hscope
    simp only [searchPage, ← hpage]
    rfl

theorem statistics_eq (rescue : Option RescueId) :
  (w'.perform (Service.statistics rescue actor)).1 = (w.perform (Service.statistics rescue actor)).1
  := by
  obtain rfl := halike.directory
  rw [perform_statistics, perform_statistics, halike.directory']
  simp only
  split
  case isFalse => rfl
  next hscope =>
    obtain ⟨own, hstaff, hown, hrescue⟩ := Service.statisticsScope_of_mayDoFor hstranger hscope
    have hother : ∀ a : Application, (actor.resolvedIn w.directory).StrangerTo a →
        (!a.isDeleted && Filters.admits (Service.statisticsScope (actor.resolvedIn w.directory) rescue)
          (· == a.rescueId)) = false := by
      intro a ha
      have hne : own ≠ a.rescueId := by
        rintro rfl
        exact ha.notAdministrator (.inr ⟨hstaff, hown⟩)
      simp [hrescue, Filters.admits, hne]
    obtain ⟨timeline, audit, rfl⟩ := halike.differ
    have hrecords : Records.ofRescue (w.records.replace r') _ = w.records.ofRescue _ :=
      halike.holds.filter_replace hout.applicationId (hother r hstranger)
        (hother r' (hstranger.outlines hout))
    rw [hrecords]

include hdeleted

theorem read_eq (id : ApplicationId) (includeDeleted : Bool) :
  (w'.perform (Service.read id actor includeDeleted)).1
    = (w.perform (Service.read id actor includeDeleted)).1
  := by
  rw [perform_read, perform_read, hstranger.role_ne, Bool.and_false, halike.directory', halike.directory]
  obtain ⟨rfl, hfound, hfound'⟩ | ⟨-, hfetch⟩ := halike.fetch_cases hout hdeleted id
  · simp only [hfound, hfound', hout.mayDo_eq, hstranger.mayDo_eq_false, hout.applicationId]
    rfl
  · rw [hfetch]

/-- The first application that a stranger may not view is the same in both worlds by its name,
and if there is none, the record is not among those that are named. -/
theorem firstHidden_eq (ids : List ApplicationId) :
  (w'.firstHidden (actor.resolvedIn d) ids).map Application.applicationId
    = (w.firstHidden (actor.resolvedIn d) ids).map Application.applicationId
  ∧ (w.firstHidden (actor.resolvedIn d) ids = none → r.applicationId ∉ ids)
  := by
  induction ids with
  | nil => exact ⟨rfl, fun _ => List.not_mem_nil⟩
  | cons id rest ih =>
    rw [firstHidden, firstHidden, List.findSome?_cons, List.findSome?_cons]
    obtain ⟨rfl, hfound, hfound'⟩ | ⟨hid, hfetch⟩ := halike.fetch_cases hout hdeleted id
    · simp [hfound, hfound', Option.filter_some, hout.mayDo_eq, hstranger.mayDo_eq_false,
        hout.applicationId]
    · rw [hfetch]
      cases (w.records.fetch id false).filter fun a => !(actor.resolvedIn d).mayDo .view a with
      | some a =>
        use rfl
        rintro ⟨⟩
      | none =>
        use ih.1
        intro hnone hmem
        obtain hname | hmem := List.mem_cons.mp hmem
        · exact hid hname.symm
        · exact ih.2 hnone hmem

include hevents

theorem timeline_eq (id : ApplicationId) (query : TimelineQuery) :
  (w'.perform (Service.timeline id query actor)).1 = (w.perform (Service.timeline id query actor)).1
  := by
  rw [perform_timeline, perform_timeline, hstranger.role_ne, halike.directory', halike.directory]
  obtain ⟨rfl, hfound, hfound'⟩ | ⟨hid, hfetch⟩ := halike.fetch_cases hout hdeleted id
  · simp only [hfound, hfound', hout.mayDo_eq, hstranger.mayDo_eq_false, hout.applicationId]
    rfl
  · rw [hfetch, eventsOf_eq hevents hid]

theorem timelineStats_eq (id : ApplicationId) :
  (w'.perform (Service.timelineStats id actor)).1 = (w.perform (Service.timelineStats id actor)).1
  := by
  rw [perform_timelineStats, perform_timelineStats, hstranger.role_ne, halike.directory', halike.directory]
  obtain ⟨rfl, hfound, hfound'⟩ | ⟨hid, hfetch⟩ := halike.fetch_cases hout hdeleted id
  · simp only [hfound, hfound', hout.mayDo_eq, hstranger.mayDo_eq_false, hout.applicationId]
    rfl
  · rw [hfetch, eventsOf_eq hevents hid]

theorem activity_eq (ids : List ApplicationId) :
  (w'.perform (Service.activity ids actor)).1 = (w.perform (Service.activity ids actor)).1
  := by
  obtain ⟨hnames, hnone⟩ := halike.firstHidden_eq hout hdeleted hstranger ids
  rw [perform_activity, perform_activity, halike.directory', halike.directory]
  cases hfirst : w.firstHidden (actor.resolvedIn d) ids with
  | none =>
    rw [hfirst] at hnames
    have hevents' : w'.eventsOfMany ids = w.eventsOfMany ids := by
      apply filter_timeline hevents
      intro e he hname
      rw [hname] at he
      exact hnone hfirst (by simpa using he)
    rw [Option.map_eq_none_iff.mp hnames, hevents']
  | some a =>
    rw [hfirst] at hnames
    obtain ⟨b, hb, hname⟩ := Option.map_eq_some_iff.mp hnames
    rw [hb]
    simp only [hname]

end World.Alike

include halike hout hdeleted hevents in
/-- A stranger's request is answered in the same way in both worlds, and leaves them alike. -/
theorem Request.perform_alike (q : Request) (hactor : q.AskedBy actor)
    (hstranger : (actor.resolvedIn d).StrangerTo r) :
  (w'.perform (q.service policy)).1 = (w.perform (q.service policy)).1
  ∧ World.Alike d r r' (w.perform (q.service policy)).2 (w'.perform (q.service policy)).2
  := by
  have hlook : q.isLook = true →
      World.Alike d r r' (w.perform (q.service policy)).2 (w'.perform (q.service policy)).2 := by
    intro hlook
    rw [perform_snd_of_isLook hlook, perform_snd_of_isLook hlook]
    exact halike
  cases q with
  | mutation m =>
    obtain rfl : m.actor = actor := hactor
    exact (m.blind hout hdeleted hstranger).perform halike
  | batch b asker =>
    obtain rfl : asker = actor := hactor
    exact (Service.blind_applyBatch hout hdeleted b hstranger).perform halike
  | report rescue answers => exact Service.blind_reportOn.perform halike
  | read id asker includeDeleted =>
    obtain rfl : asker = actor := hactor
    exact ⟨halike.read_eq hout hdeleted hstranger id includeDeleted, hlook rfl⟩
  | search filters options asker =>
    obtain rfl : asker = actor := hactor
    exact ⟨halike.search_eq hout hstranger filters options, hlook rfl⟩
  | timeline id query asker =>
    obtain rfl : asker = actor := hactor
    exact ⟨halike.timeline_eq hout hdeleted hevents hstranger id query, hlook rfl⟩
  | timelineStats id asker =>
    obtain rfl : asker = actor := hactor
    exact ⟨halike.timelineStats_eq hout hdeleted hevents hstranger id, hlook rfl⟩
  | activity ids asker =>
    obtain rfl : asker = actor := hactor
    exact ⟨halike.activity_eq hout hdeleted hevents hstranger ids, hlook rfl⟩
  | statistics rescue asker =>
    obtain rfl : asker = actor := hactor
    exact ⟨halike.statistics_eq hout hstranger rescue, hlook rfl⟩

end Looking

/-- Take an application that is not deleted, and somebody who is neither its applicant nor an
administrator nor staff of its rescue.  In two worlds that differ only in what is in the
application, but for its name, its applicant and its rescue, in its events, and in the audit
log, every request of that somebody has the same result, and leaves the application as it is. -/
theorem strangers_learn_nothing (policy : Policy) (w : World) (r r' : Application)
    (timeline : List TimelineEvent) (audit : List AuditEntry) (actor : Actor) (q : Request)
    (hdistinct : w.records.Distinct) (hstored : r ∈ w.records) (hdeleted : r.isDeleted = false)
    (hout : r.Outlines r')
    (hevents : timeline.filter (fun e => e.applicationId ≠ r.applicationId)
      = w.timeline.filter fun e => e.applicationId ≠ r.applicationId)
    (hactor : q.AskedBy actor) (hstranger : (actor.resolvedIn w.directory).StrangerTo r) :
  let w' := { w with records := w.records.replace r', timeline, audit }
  (w'.perform (q.service policy)).1 = (w.perform (q.service policy)).1
  ∧ (w.perform (q.service policy)).2.records.find? r.applicationId = some r
  ∧ (w'.perform (q.service policy)).2.records.find? r.applicationId = some r'
  := by
  intro w'
  have halike : World.Alike w.directory r r' w w' := ⟨rfl, hdistinct.holds hstored, timeline, audit, rfl⟩
  obtain ⟨hsame, hlater⟩ := q.perform_alike halike hout hdeleted hevents hactor hstranger
  exact ⟨hsame, hlater.holds.stored, hlater.find?_self hout⟩

/-- The other adopter asks for everything there is. -/
def Demo.curiosity : Request :=
  .search {} {} secondAdopter

/-- Whether the application of the adopter has been rejected or not, the other adopter finds the
same. -/
theorem curiosity_learns_nothing :
  ∃ r ∈ Demo.bothApplied.records, r.applicationId = ⟨"app-1"⟩ ∧ r.status = .submitted
    ∧ let w' := { Demo.bothApplied with
          records := Demo.bothApplied.records.replace { r with status := .rejected, notes := some "No garden" }
          timeline := Demo.bothApplied.timeline.filter fun e => e.applicationId ≠ r.applicationId
          audit := [] }
      (w'.perform (Demo.curiosity.service Demo.policy)).1
        = (Demo.bothApplied.perform (Demo.curiosity.service Demo.policy)).1
  := by
  have hfacts : (Demo.bothApplied.records.find? ⟨"app-1"⟩).map
      (fun r => (r.userId, r.status, r.isDeleted)) = some (Demo.adopter.userId, .submitted, false) := by
    decide +kernel
  have hdistinct : Demo.bothApplied.records.Distinct := by
    rw [Records.Distinct]
    decide +kernel
  obtain ⟨r, hfound, hfacts⟩ := Option.map_eq_some_iff.mp hfacts
  simp only [Prod.mk.injEq] at hfacts
  obtain ⟨howner, hstatus, hdeleted⟩ := hfacts
  have hmem := Records.mem_of_find? hfound
  refine ⟨r, hmem, Records.applicationId_of_find? hfound, hstatus, ?_⟩
  have hstranger : (Demo.secondAdopter.resolvedIn Demo.bothApplied.directory).StrangerTo r := by
    constructor
    case notOwner =>
      rw [howner, Actor.resolvedIn_userId]
      decide
    case notAdministrator =>
      rintro (hadmin | ⟨hstaff, -⟩)
      · rw [Actor.resolvedIn_role] at hadmin
        cases hadmin
      · rw [Actor.resolvedIn_role] at hstaff
        cases hstaff
  have hevents : (Demo.bothApplied.timeline.filter fun e => e.applicationId ≠ r.applicationId).filter
        (fun e => e.applicationId ≠ r.applicationId)
      = Demo.bothApplied.timeline.filter fun e => e.applicationId ≠ r.applicationId := by
    rw [List.filter_filter]
    simp
  obtain ⟨hsame, -⟩ := strangers_learn_nothing Demo.policy Demo.bothApplied r
    { r with status := .rejected, notes := some "No garden" } _ [] Demo.secondAdopter Demo.curiosity
    hdistinct hmem hdeleted ⟨rfl, rfl, rfl, rfl⟩ hevents rfl hstranger
  exact hsame

end Rehoming
