import Rehoming.Application.Basic
import Rehoming.Timeline.Event
import Mathlib.Tactic.Use
/-!
# Applications retold

The timeline of an application tells how it came to be as it is: the statuses and the stages
that its events lead between are one chain each, from the first of them to the one stored, and
its documents can be counted from its events.  What happens to an application is an episode,
which adds some events to its timeline; a timeline that retells an application before an
episode retells it after the episode as well.
-/

namespace Rehoming

/-! ### Chains of moves -/

/-- That moves lead from one place to another, each from where the one before it has led. -/
inductive Leads {α : Type} : α → List (Option α × α) → α → Prop
  | stay (a : α) : Leads a [] a
  | move {a b c : α} {moves : List (Option α × α)} :
      Leads b moves c → Leads a ((some a, b) :: moves) c

theorem Leads.append {α : Type} {a b c : α} {moves more : List (Option α × α)} (h : Leads a moves b)
    (h' : Leads b more c) :
  Leads a (moves ++ more) c
  := by
  induction h with
  | stay => exact h'
  | move _ ih => exact .move (ih h')

namespace TimelineEvent

/-- The move of the status that an event tells of. -/
def statusMove? (e : TimelineEvent) : Option (Option Status × Status) :=
  e.newStatus.map fun new => (e.previousStatus, new)

/-- The move of the stage that an event tells of. -/
def stageMove? (e : TimelineEvent) : Option (Option Stage × Stage) :=
  e.newStage.map fun new => (e.previousStage, new)

/-- Whether an event tells of a stage that something else has settled. -/
def isProgression (e : TimelineEvent) : Bool :=
  e.eventType == .systemAutoProgression

/-- Whether an event tells of an upload. -/
def isUpload (e : TimelineEvent) : Bool :=
  e.eventType == .documentUploaded

/-- That an event tells of something that somebody has done without changing the status. -/
structure IsOrdinary (e : TimelineEvent) : Prop where
  status : e.newStatus = none
  author : e.createdBy ≠ none
  kind : e.isProgression = false

/-- That an event tells of a status that somebody has changed. -/
structure TellsStatus (e : TimelineEvent) (previous : Option Status) (new : Status) : Prop where
  status : e.newStatus = some new
  previous : e.previousStatus = previous
  stage : e.newStage = none
  author : e.createdBy ≠ none
  kind : e.isProgression = false ∧ e.isUpload = false

/-- That an event tells of a stage that something else has settled. -/
structure TellsSettlement (e : TimelineEvent) (previous new : Stage) : Prop where
  stage : e.newStage = some new
  previous : e.previousStage = some previous
  status : e.newStatus = none
  author : e.createdBy = none
  kind : e.isProgression = true ∧ e.isUpload = false

end TimelineEvent

/-! ### What a timeline retells -/

/-- That events, in the order in which they were recorded, retell an application. -/
structure Application.RetoldBy (a : Application) (events : List TimelineEvent) : Prop where
  /-- The statuses begin with the submission and lead to the one stored. -/
  statuses : ∃ moves, events.filterMap TimelineEvent.statusMove? = (none, .submitted) :: moves
    ∧ Leads .submitted moves a.status
  /-- The stages lead from the first one to the one stored. -/
  stages : Leads .pending (events.filterMap TimelineEvent.stageMove?) a.stage
  /-- A final status settles the stage once, and nothing else does. -/
  progressions : events.countP (·.isProgression) = if a.status.isFinal then 1 else 0
  /-- Right before a stage is settled, the status is told that settles it. -/
  caused : ∀ earlier e later, events = earlier ++ e :: later → e.isProgression = true →
    ∃ earliest cause, earlier = earliest ++ [cause] ∧ cause.newStatus = some a.status
  /-- Nothing but what happens by itself has no author. -/
  authors : ∀ e ∈ events, e.createdBy = none ↔ e.isProgression = true
  /-- Every document has been uploaded. -/
  uploads : events.countP (·.isUpload) = a.documents.length

/-- What happens to an application, by the events that it adds to the timeline: something that
leaves the status, or a final status, with the stage that it settles. -/
inductive Episode (before after : Application) : List TimelineEvent → Prop
  | ordinary (events : List TimelineEvent) :
      after.status = before.status → (∀ e ∈ events, e.IsOrdinary) →
      Leads before.stage (events.filterMap TimelineEvent.stageMove?) after.stage →
      after.documents.length = before.documents.length + events.countP (·.isUpload) →
      Episode before after events
  | final (told settled : TimelineEvent) :
      before.status = .submitted → after.status ≠ .submitted →
      told.TellsStatus (some before.status) after.status →
      settled.TellsSettlement before.stage after.stage →
      after.documents = before.documents → Episode before after [told, settled]

namespace Application.RetoldBy

variable {a before after : Application} {events more : List TimelineEvent}
  {told settled : TimelineEvent}

/-- A new application is retold by the event of its submission. -/
theorem submission (hstatus : a.status = .submitted) (hstage : a.stage = .pending)
    (hdocuments : a.documents = []) (htold : told.TellsStatus none .submitted) :
  a.RetoldBy [told]
  := by
  constructor
  case statuses =>
    use []
    rw [hstatus]
    simp [TimelineEvent.statusMove?, htold.status, htold.previous, Leads.stay]
  case stages =>
    rw [hstage]
    simp [TimelineEvent.stageMove?, htold.stage, Leads.stay]
  case progressions => simp [htold.kind, hstatus, Status.isFinal]
  case caused =>
    intro earlier e later hsplit hprogression
    have hmem : e ∈ [told] := by simp [hsplit]
    rw [List.mem_singleton.mp hmem, htold.kind.1] at hprogression
    cases hprogression
  case authors => simp [htold.author, htold.kind]
  case uploads => simp [htold.kind, hdocuments]

/-- As long as nothing has been decided, no stage has been settled. -/
theorem isProgression_eq_false (h : a.RetoldBy events) (hopen : a.status = .submitted) :
  ∀ e ∈ events, e.isProgression = false
  := by
  have hcount := h.progressions
  rw [hopen] at hcount
  simpa [Status.isFinal] using hcount

theorem ordinary (h : before.RetoldBy events) (hstatus : after.status = before.status)
    (hplain : ∀ e ∈ more, e.IsOrdinary)
    (hstages : Leads before.stage (more.filterMap TimelineEvent.stageMove?) after.stage)
    (hdocuments : after.documents.length = before.documents.length + more.countP (·.isUpload)) :
  after.RetoldBy (events ++ more)
  := by
  constructor
  case statuses =>
    obtain ⟨moves, hmoves, hstatuses⟩ := h.statuses
    have hnone : more.filterMap TimelineEvent.statusMove? = [] := by
      rw [List.filterMap_eq_nil_iff]
      intro e he
      simp [TimelineEvent.statusMove?, (hplain e he).status]
    use moves
    rw [List.filterMap_append, hmoves, hnone, List.append_nil, hstatus]
    exact ⟨rfl, hstatuses⟩
  case stages =>
    rw [List.filterMap_append]
    exact h.stages.append hstages
  case progressions =>
    have hquiet : more.countP (·.isProgression) = 0 := by
      rw [List.countP_eq_zero]
      intro e he
      simp [(hplain e he).kind]
    rw [List.countP_append, hquiet, hstatus, h.progressions, Nat.add_zero]
  case caused =>
    intro earlier e later hsplit hprogression
    have hold : e ∉ more := by
      intro he
      rw [(hplain e he).kind] at hprogression
      cases hprogression
    rw [hstatus]
    obtain ⟨rest, -, rfl⟩ | ⟨rest, hevents, hlater⟩ := List.append_eq_append_iff.mp hsplit
    · simp at hold
    · cases rest with
      | nil =>
        rw [List.nil_append] at hlater
        simp [← hlater] at hold
      | cons e' rest =>
        obtain ⟨rfl, -⟩ := List.cons.inj hlater
        exact h.caused earlier e rest hevents hprogression
  case authors =>
    intro e he
    obtain he | he := List.mem_append.mp he
    · exact h.authors e he
    · simp [(hplain e he).author, (hplain e he).kind]
  case uploads => rw [List.countP_append, h.uploads, hdocuments]

theorem final (h : before.RetoldBy events) (hopen : before.status = .submitted)
    (hfinal : after.status ≠ .submitted) (htold : told.TellsStatus (some before.status) after.status)
    (hsettled : settled.TellsSettlement before.stage after.stage)
    (hdocuments : after.documents = before.documents) :
  after.RetoldBy (events ++ [told, settled])
  := by
  constructor
  case statuses =>
    obtain ⟨moves, hmoves, hstatuses⟩ := h.statuses
    use moves ++ [(some before.status, after.status)]
    rw [List.filterMap_append, hmoves]
    refine ⟨?_, hstatuses.append (.move (.stay _))⟩
    simp [TimelineEvent.statusMove?, htold.status, htold.previous, hsettled.status]
  case stages =>
    rw [List.filterMap_append]
    apply h.stages.append
    simp [TimelineEvent.stageMove?, htold.stage, hsettled.stage, hsettled.previous, Leads.move, Leads.stay]
  case progressions =>
    rw [List.countP_append, h.progressions]
    simp [htold.kind, hsettled.kind, hopen, Status.isFinal, hfinal]
  case caused =>
    intro earlier e later hsplit hprogression
    have hnew : e ∉ events ∧ e ≠ told := by
      constructor
      · intro he
        rw [h.isProgression_eq_false hopen e he] at hprogression
        cases hprogression
      · rintro rfl
        rw [htold.kind.1] at hprogression
        cases hprogression
    obtain ⟨rest, rfl, hmore⟩ | ⟨rest, hevents, hlater⟩ := List.append_eq_append_iff.mp hsplit
    · -- The first of the two events is not the one, so it stands right before it.
      cases rest with
      | nil => cases hnew.2 (List.cons.inj hmore).1.symm
      | cons first rest =>
        obtain ⟨rfl, hrest⟩ := List.cons.inj hmore
        cases rest with
        | nil => exact ⟨events, told, rfl, htold.status⟩
        | cons => simp at hrest
    · cases rest with
      | nil => cases hnew.2 (List.cons.inj hlater).1
      | cons e' rest =>
        obtain ⟨rfl, -⟩ := List.cons.inj hlater
        simp [hevents] at hnew
  case authors =>
    intro e he
    obtain he | he := List.mem_append.mp he
    · exact h.authors e he
    · obtain rfl | he := List.mem_cons.mp he
      · simp [htold.author, htold.kind]
      · obtain rfl := List.mem_singleton.mp he
        simp [hsettled.author, hsettled.kind]
  case uploads =>
    rw [List.countP_append, h.uploads, hdocuments]
    simp [htold.kind, hsettled.kind]

/-- A timeline that retells an application goes on to do so with whatever happens to it. -/
theorem episode (h : before.RetoldBy events) (he : Episode before after more) :
  after.RetoldBy (events ++ more)
  := by
  cases he with
  | ordinary _ hstatus hplain hstages hdocuments => exact h.ordinary hstatus hplain hstages hdocuments
  | final told settled hopen hfinal htold hsettled hdocuments =>
    exact h.final hopen hfinal htold hsettled hdocuments

end Application.RetoldBy

end Rehoming
