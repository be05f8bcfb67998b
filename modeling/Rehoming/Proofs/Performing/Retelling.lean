import Rehoming.Proofs.Performing.Books
import Rehoming.Proofs.Performing.Session
import Rehoming.Proofs.Service.Course
import Rehoming.Proofs.Sharing.Requests
import Rehoming.Proofs.Timeline.Replay
/-!
# Timelines retell applications

Each operation enters into the timeline the episode that it has made the application go
through.  So the events of an application retell it, however many requests there have been.
-/

namespace Rehoming

open Service

/-! ### What the operations tell -/

section Enacts

variable {m : Mutation} {now : Time.Instant} {before after draft : Application}
  {events : List TimelineEvent} {entries : List AuditEntry}
  {move : Option Application.StageMove} {user : UserId} {reason notes : Option String}
  {name name' : String}

theorem tellsStatus_statusEvent (done : Moved) :
  (statusEvent done user reason notes name).TellsStatus (some done.before.status) done.after.status
  := by
  constructor
  case status | previous | stage => rfl
  case author => exact Option.some_ne_none user
  case kind =>
    rw [statusEvent]
    cases done.after.status with
    | submitted | approved | rejected | withdrawn => exact ⟨rfl, rfl⟩

theorem tellsSettlement_stageEvent (done : Moved) (move : Application.StageMove) :
  (stageEvent done move name).TellsSettlement move.previous move.new
  := by
  constructor
  case stage | previous | status | author => rfl
  case kind => exact ⟨rfl, rfl⟩

/-- A final status is told with the stage that it settles, since a stage that a status settles
cannot have been chosen. -/
theorem Application.Settles.episode (h : before.Settles draft move)
    (hopen : before.stage.isSettled = false) (hstatus : after.status = draft.status)
    (hstage : after.stage = draft.stage) (hdocuments : after.documents = draft.documents) :
  Episode before after (moveEvents { before, after, outcome := move } user reason notes name name')
  := by
  have hmoved : draft.stage ≠ before.stage := by
    intro hsame
    rw [← hsame, h.stage] at hopen
    cases hopen
  rw [moveEvents, h.move, if_neg hmoved]
  apply Episode.final
  · exact h.waiting
  · rw [hstatus]
    exact h.final
  · apply tellsStatus_statusEvent
  · rw [hstage]
    apply tellsSettlement_stageEvent
  · rw [hdocuments, h.documents]

/-- An event that tells neither of a status nor of a stage is an episode that leaves both. -/
theorem Episode.note {e : TimelineEvent} (he : e.IsOrdinary) (hnothing : e.newStage = none)
    (hstatus : after.status = before.status) (hstage : after.stage = before.stage)
    (hdocuments : after.documents.length = before.documents.length + if e.isUpload then 1 else 0) :
  Episode before after [e]
  := by
  apply Episode.ordinary _ hstatus
  · simpa using he
  · rw [hstage]
    simpa [TimelineEvent.stageMove?, hnothing] using Leads.stay before.stage
  · simpa [List.countP_singleton] using hdocuments

/-- Nothing told is an episode that leaves status, stage and documents. -/
theorem Episode.silent (hstatus : after.status = before.status) (hstage : after.stage = before.stage)
    (hdocuments : after.documents = before.documents) :
  Episode before after []
  := by
  apply Episode.ordinary [] hstatus
  · intro e he
    cases he
  · rw [hstage]
    exact .stay before.stage
  · rw [hdocuments]
    rfl

theorem isOrdinary_checkedEvent (slot : Reference) (index added : Nat) :
  (checkedEvent after slot index added user name).IsOrdinary
    ∧ (checkedEvent after slot index added user name).newStage = none
    ∧ (checkedEvent after slot index added user name).isUpload = false
  := by
  rw [checkedEvent]
  cases slot.status with
  | pending | contacted | verified | failed =>
    exact ⟨⟨rfl, Option.some_ne_none user, rfl⟩, rfl, rfl⟩

/-- The choice of a stage is an episode that leads to the stage. -/
theorem Episode.choice (c : StageChoice) (hstatus : after.status = before.status)
    (hdocuments : after.documents = before.documents) :
  Episode before after [stageChosenEvent after before.stage c user name]
  := by
  have hevent : (stageChosenEvent after before.stage c user name).IsOrdinary
      ∧ (stageChosenEvent after before.stage c user name).stageMove? = some (some before.stage, after.stage)
      ∧ (stageChosenEvent after before.stage c user name).isUpload = false := by
    rw [stageChosenEvent]
    cases Text.nonBlank c.notes with
    | none | some notes => exact ⟨⟨rfl, Option.some_ne_none user, rfl⟩, rfl, rfl⟩
  apply Episode.ordinary _ hstatus
  · simpa using hevent.1
  · simp [hevent.2.1, Leads.move, Leads.stay]
  · simp [hevent.2.2, hdocuments]

/-- What a mutation enters into the timeline is the episode that it has made the application go
through. -/
theorem Mutation.Enacts.episode (h : m.Enacts now before after draft events entries)
    (hopen : before.status = .submitted → before.stage.isSettled = false)
    (hstatus : after.status = draft.status) (hstage : after.stage = draft.stage)
    (hdocuments : after.documents = draft.documents) :
  Episode before after events
  := by
  cases h with
  | edit =>
    refine Episode.note ⟨rfl, Option.some_ne_none _, rfl⟩ rfl hstatus hstage ?_
    rw [hdocuments]
    rfl
  | editInVain => exact Episode.silent hstatus hstage hdocuments
  | decide _ _ _ _ _ _ _ _ happlied =>
    have hsettles := Decision.settles happlied
    exact hsettles.episode (hopen hsettles.waiting) hstatus hstage hdocuments
  | withdraw _ _ _ _ _ _ _ _ happlied =>
    have hsettles := Withdrawal.settles happlied
    exact hsettles.episode (hopen hsettles.waiting) hstatus hstage hdocuments
  | check _ _ _ index slot added =>
    obtain ⟨hordinary, hnothing, hupload⟩ := isOrdinary_checkedEvent slot index added
    refine Episode.note hordinary hnothing hstatus hstage ?_
    rw [hdocuments, hupload]
    rfl
  | attach =>
    refine Episode.note ⟨rfl, Option.some_ne_none _, rfl⟩ rfl hstatus hstage ?_
    rw [hdocuments, List.length_append]
    rfl
  | chooseStage _ c =>
    rw [c.applyTo_eq] at hstatus hdocuments
    exact Episode.choice c hstatus hdocuments
  | keepStage _ c _ _ _ hkept =>
    rw [c.applyTo_eq] at hstatus hstage hdocuments
    exact Episode.silent hstatus (hstage.trans hkept.symm) hdocuments
  | delete => exact Episode.silent hstatus hstage hdocuments
  | label _ p =>
    rw [Patch.label, Application.appendIfAny_eq] at hstatus hstage hdocuments
    exact Episode.silent hstatus hstage hdocuments
  | patch _ _ _ _ _ _ _ _ _ htarget happlied =>
    have hsettles := Patch.settles htarget happlied
    exact hsettles.episode (hopen hsettles.waiting) hstatus hstage hdocuments

/-- As long as an application waits for a decision, its stage is none that a status settles. -/
theorem Mutation.Enacts.isSettled_eq_false (h : m.Enacts now before after draft events entries)
    (hopen : before.status = .submitted → before.stage.isSettled = false)
    (hwaiting : draft.status = .submitted) :
  draft.stage.isSettled = false
  := by
  cases h with
  | edit | editInVain | check | attach | delete => exact hopen hwaiting
  | decide _ _ _ _ _ _ _ _ happlied => cases (Decision.settles happlied).final hwaiting
  | withdraw _ _ _ _ _ _ _ _ happlied => cases (Withdrawal.settles happlied).final hwaiting
  | chooseStage _ c _ _ _ hfaults | keepStage _ c _ hfaults =>
    rw [c.applyTo_eq]
    exact StageChoice.isSettled_eq_false hfaults
  | label =>
    rw [Patch.label, Application.appendIfAny_eq] at hwaiting ⊢
    exact hopen hwaiting
  | patch _ _ _ _ _ _ _ _ _ htarget happlied => cases (Patch.settles htarget happlied).final hwaiting

/-- The events of a change of status are about the application whose status has changed. -/
theorem about_moveEvents (done : Moved) :
  ∀ e ∈ moveEvents done user reason notes name name', e.applicationId = done.after.applicationId
  := by
  intro e he
  obtain rfl | he := List.mem_cons.mp he
  · rfl
  · obtain ⟨move, -, rfl⟩ := List.mem_map.mp he
    rfl

/-- What a mutation enters into the timeline is about the application that it has amended. -/
theorem Mutation.Enacts.about (h : m.Enacts now before after draft events entries) :
  ∀ e ∈ events, e.applicationId = after.applicationId
  := by
  cases h with
  | edit | attach =>
    rw [List.forall_mem_singleton]
    rfl
  | editInVain | keepStage | delete | label => simp
  | decide | withdraw | patch => apply about_moveEvents
  | check _ _ _ _ slot =>
    rw [List.forall_mem_singleton, checkedEvent]
    cases slot.status with
    | _ => rfl
  | chooseStage _ c =>
    rw [List.forall_mem_singleton, stageChosenEvent]
    cases Text.nonBlank c.notes with
    | none | some notes => rfl

end Enacts

/-! ### Retold worlds -/

namespace World

variable {policy : Policy} {w : World} {a : Application}

theorem eventsOf_enter {events : List TimelineEvent} {entries : List AuditEntry}
    {id : ApplicationId} (habout : ∀ e ∈ events, e.applicationId = a.applicationId) :
  (w.enter events entries).eventsOf id
    = if a.applicationId = id then w.eventsOf id ++ events else w.eventsOf id
  := by
  have hentered : (w.enter events entries).eventsOf id
      = w.eventsOf id ++ events.filter (·.applicationId == id) := List.filter_append ..
  rw [hentered]
  split
  next hid =>
    rw [List.filter_eq_self.mpr]
    intro e he
    simp [habout e he, hid]
  next hother =>
    rw [List.filter_eq_nil_iff.mpr, List.append_nil]
    intro e he
    simp [habout e he, hother]

/-- That the timeline of a world retells all of its applications, and no others. -/
structure Retells (w : World) : Prop where
  distinct : w.records.Distinct
  stored : ∀ id a, w.records.find? id = some a → a.RetoldBy (w.eventsOf id)
  /-- A stage that a status settles is not the stage of an application that waits. -/
  waiting : ∀ id a, w.records.find? id = some a → a.status = .submitted → a.stage.isSettled = false
  missing : ∀ id, w.records.find? id = none → w.eventsOf id = []

theorem retells_start (w : World) :
  { w with records := [], timeline := [], audit := [] }.Retells
  := by
  constructor
  case distinct => exact List.Pairwise.nil
  case stored | waiting =>
    intro id a hfound
    cases hfound
  case missing => exact fun _ _ => rfl

/-- A world retells its applications after one of them has changed, or has come to be, if the
events of the change retell that one. -/
theorem Retells.enter (h : w.Retells) (later : World) (hdistinct : later.records.Distinct)
    (hfind : ∀ id, later.records.find? id
      = if a.applicationId = id then some a else w.records.find? id)
    (htimeline : later.timeline = w.timeline) {events : List TimelineEvent}
    (habout : ∀ e ∈ events, e.applicationId = a.applicationId)
    (hretold : a.RetoldBy (w.eventsOf a.applicationId ++ events))
    (hwaiting : a.status = .submitted → a.stage.isSettled = false) (entries : List AuditEntry) :
  (later.enter events entries).Retells
  := by
  have hevents : ∀ id, later.eventsOf id = w.eventsOf id := by
    intro id
    rw [eventsOf, htimeline, eventsOf]
  constructor
  case distinct => exact hdistinct
  case stored =>
    intro id b hb
    rw [enter_records, hfind] at hb
    rw [eventsOf_enter habout, hevents]
    split at hb
    next hid =>
      obtain rfl := Option.some.inj hb
      rw [if_pos hid, ← hid]
      exact hretold
    next hother =>
      rw [if_neg hother]
      exact h.stored id b hb
  case waiting =>
    intro id b hb
    rw [enter_records, hfind] at hb
    split at hb
    · obtain rfl := Option.some.inj hb
      exact hwaiting
    · exact h.waiting id b hb
  case missing =>
    intro id hnone
    rw [enter_records, hfind] at hnone
    split at hnone
    · cases hnone
    next hother =>
      rw [eventsOf_enter habout, if_neg hother, hevents]
      exact h.missing id hnone

/-- The submission of an application retells it. -/
theorem Retells.file (h : w.Retells) {s : Submission} {actor : Actor} {petName name entry : String}
    (hdrafted : w.drafted policy s actor = .ok (a, petName))
    (hinsert : w.records.insert a = .ok (w.records ++ [a])) :
  ((w.file a).enter [submittedEvent a petName w.clock name] [submittedEntry a w.clock entry]).Retells
  := by
  obtain ⟨hfree, -, -⟩ := Records.insert_eq_ok_iff.mp hinsert
  have hmade : a.status = .submitted ∧ a.stage = .pending ∧ a.documents = [] := by
    obtain ⟨pet, rescue, rfl⟩ := eq_of_drafted hdrafted
    exact ⟨rfl, rfl, rfl⟩
  apply h.enter (w.file a) (h.distinct.insert hinsert)
    (fun id => Records.find?_append_of_free hfree) rfl
  · rw [List.forall_mem_singleton]
    rfl
  · rw [h.missing a.applicationId hfree]
    apply Application.RetoldBy.submission hmade.1 hmade.2.1 hmade.2.2
    exact ⟨rfl, rfl, rfl, Option.some_ne_none a.userId, rfl, rfl⟩
  · intro _
    rw [hmade.2.1]
    rfl

/-- The timeline goes on to retell the applications whatever anybody makes of one of them. -/
theorem Retells.perform (h : w.Retells) (m : Mutation) :
  (w.perform (m.service policy)).2.Retells
  := by
  have hends := m.perform_ends policy w
  generalize hresult : w.perform (m.service policy) = result at hends
  cases hends with
  | refused => exact h
  | filed s actor a petName name entry _ hdrafted hinsert => exact h.file hdrafted hinsert
  | amended before draft events entries htarget hstored hdeleted henacts =>
    have hname : (draft.rewritten before policy.ttlDays w.clock).applicationId = before.applicationId :=
      henacts.applicationId
    have hopen := h.waiting before.applicationId before hstored
    refine h.enter (w.write (draft.rewritten before policy.ttlDays w.clock))
      h.distinct.replace ?_ rfl henacts.about ?_ (henacts.isSettled_eq_false hopen) entries
    · intro id
      rw [write_records, Records.find?_replace]
      split
      next hid =>
        rw [← hid, hname, hstored]
        rfl
      next => rfl
    · rw [hname]
      exact (h.stored before.applicationId before hstored).episode (henacts.episode hopen rfl rfl rfl)

end World

/-- However many requests a service with empty stores has been asked, the timeline retells every
application: its events lead to the status and to the stage that are stored, and count the
documents. -/
theorem timelines_retell_applications (policy : Policy) (w : World) (occasions : List Occasion) :
  let later := { w with records := [], timeline := [], audit := [] }.serveAll policy occasions
  ∀ a ∈ later.records, a.RetoldBy (later.eventsOf a.applicationId)
  := by
  intro later a ha
  have hlater : later.Retells := by
    apply World.serveAll_induction (P := World.Retells) _ _ occasions (World.retells_start w)
    · exact fun w t h => ⟨h.distinct, h.stored, h.waiting, h.missing⟩
    · exact fun m w h => h.perform m
  exact hlater.stored a.applicationId a (hlater.distinct.find?_eq ha)

/-- The adopter applies for a pet, the staff choose a stage, the adopter attaches a document, and
the administrator approves the application. -/
def Demo.course : List Occasion :=
  [⟨moment 1, .mutation (.submit (submission rufus) adopter)⟩,
   ⟨moment 2, .mutation (.chooseStage ⟨"app-1"⟩ ⟨.visiting, some "Home visit"⟩ staff)⟩,
   ⟨moment 3, .mutation (.attach ⟨"app-1"⟩ ⟨"id", "id.pdf", "files/id.pdf"⟩ adopter)⟩,
   ⟨moment 4, .mutation (.decide ⟨"app-1"⟩ ⟨.approved, none, none, none⟩ admin)⟩]

/-- The application of the adopter is retold by five events, from the submission to the approval. -/
theorem course_retold :
  let later := { Demo.informalWorld with records := [], timeline := [], audit := [] }.serveAll
    Demo.policy Demo.course
  (∃ a ∈ later.records, a.applicationId = ⟨"app-1"⟩ ∧ a.RetoldBy (later.eventsOf ⟨"app-1"⟩))
  ∧ (later.eventsOf ⟨"app-1"⟩).map TimelineEvent.stageMove?
    = [none, some (some .pending, .visiting), none, none, some (some .visiting, .resolved)]
  := by
  intro later
  constructor
  · have hfound : (later.records.find? ⟨"app-1"⟩).isSome = true := by decide +kernel
    obtain ⟨a, ha⟩ := Option.isSome_iff_exists.mp hfound
    have hname := Records.applicationId_of_find? ha
    have hretold := timelines_retell_applications Demo.policy Demo.informalWorld Demo.course a
      (Records.mem_of_find? ha)
    rw [hname] at hretold
    exact ⟨a, Records.mem_of_find? ha, hname, hretold⟩
  · decide +kernel

end Rehoming
