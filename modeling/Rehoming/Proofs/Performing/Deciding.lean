import Rehoming.Proofs.Performing.Batches
/-!
# A decision and a batch of one

The staff can decide on an application by itself or with a batch of one.  Both ways make the
same of the record, tell the same events, and are refused for the same kind of reason; only the
audit entries tell them apart.
-/

namespace Rehoming

open Service

/-- An event without its name. -/
def TimelineEvent.unnamed (e : TimelineEvent) : TimelineEvent :=
  { e with timelineId := "" }

/-- A decision with nothing but notes. -/
def Decision.noted (status : Status) (notes : Option String) : Decision where
  status
  rejectionReason := none
  notes
  followUpDate := none

/-- The patch that takes a decision with nothing but notes. -/
def Patch.deciding (status : Status) (notes : Option String) : Patch where
  status := some status
  priority := none
  tags := none
  notes

variable {status : Status} {notes : Option String} {a : Application} {actor : Actor}

/-! ### Records -/

/-- Notes do not matter to the stage that a status settles, nor to its move. -/
theorem Application.settleStage_appendIfAny (a : Application) (notes : Option String) :
  (a.appendIfAny notes).settleStage = a.settleStage.appendIfAny notes
    ∧ (a.appendIfAny notes).stageMove = a.stageMove
  := by
  rw [appendIfAny_eq, appendIfAny_eq, settleStage_eq, settleStage_eq]
  exact ⟨rfl, rfl⟩

/-- The patch settles the stage before it adds the notes and the decision after it, and both
make the same of a record. -/
theorem Patch.applyTo_deciding (user : UserId) (now : Time.Instant) :
  (deciding status notes).applyTo a user now = (Decision.noted status notes).applyTo a user now
  := by
  have hrecord : ∀ moved : Application, (Decision.noted status notes).record moved
      = moved.appendIfAny notes := by
    intro moved
    have hnone : Text.nonBlank none = none := rfl
    by_cases hrejected : status = .rejected
    · simp [Decision.record, Decision.noted, hrejected, hnone, Application.appendIfAny_eq]
    · simp [Decision.record, Decision.noted, hrejected, Application.appendIfAny_eq]
  rw [applyTo, Decision.applyTo]
  change (a.transition status user now).map _ = (a.transition status user now).map _
  congr 1
  funext moved
  obtain ⟨hstage, hmove⟩ := moved.settleStage_appendIfAny notes
  simp only [hrecord, hstage, hmove]
  rfl

@[simp]
theorem Decision.notes_noted : (noted status notes).notes = notes := rfl

@[simp]
theorem Patch.notes_deciding : (deciding status notes).notes = notes := rfl

@[simp]
theorem Decision.reason_noted :
  (noted status notes).reason = none
  := by
  rw [reason, noted]
  split <;> rfl

/-! ### Events -/

/-- The events of a change of status are the same but for their names. -/
theorem Service.unnamed_moveEvents (done : Moved) (user : UserId) (reason notes : Option String)
    (name name' other other' : String) :
  (moveEvents done user reason notes name name').map TimelineEvent.unnamed
    = (moveEvents done user reason notes other other').map TimelineEvent.unnamed
  := by
  rw [moveEvents, moveEvents]
  cases done.outcome with
  | none => rfl
  | some move => rfl

/-! ### Operations -/

namespace World

/-- That two operations on the record of a name, each in its own world, end alike: both are
refused for the same kind of reason and change nothing, or both write the same record and enter
the same events but for their names. -/
inductive EndAlike (w w' : World) (id : ApplicationId) :
    (result result' : Except Refusal Application × World) → Prop
  | refused (e e' : Refusal) : e.kind = e'.kind → EndAlike w w' id (.error e, w) (.error e', w')
  | written (before a : Application) (events events' : List TimelineEvent)
      (entries entries' : List AuditEntry) :
      w.records.find? id = some before → a.applicationId = id →
      events.map TimelineEvent.unnamed = events'.map TimelineEvent.unnamed →
      EndAlike w w' id (.ok a, (w.write a).enter events entries)
        (.ok a, (w'.write a).enter events' entries')

variable {policy : Policy} {w w' : World} {id : ApplicationId}

/-- Operations that have written the same record, and only differ in what they log, end
alike. -/
theorem endAlike_of_moved (done : Moved) (user : UserId) (reason notes : Option String)
    (entry entry' : String → AuditEntry) (hstored : w.records.find? id = some done.before)
    (hname : done.after.applicationId = id) :
  EndAlike w w' id
    ((w.write done.after).perform (recordMove done user reason notes >>= fun _ => log entry >>= fun _ =>
      pure done.after))
    ((w'.write done.after).perform (recordMove done user reason notes >>= fun _ => log entry' >>= fun _ =>
      pure done.after))
  := by
  obtain ⟨name, name', _, hentered⟩ := perform_recordMove_log_bind (w := w.write done.after) done user
    reason notes entry (pure done.after)
  obtain ⟨other, other', _, hentered'⟩ := perform_recordMove_log_bind (w := w'.write done.after) done
    user reason notes entry' (pure done.after)
  rw [hentered, hentered', perform_pure, perform_pure]
  exact .written done.before done.after _ _ _ _ hstored hname (unnamed_moveEvents ..)

/-- The decision of an item of a batch and the same decision by itself end alike in worlds with
the same records and the same directory at the same time. -/
theorem patchOne_endAlike (hrecords : w'.records = w.records) (hclock : w'.clock = w.clock)
    (hdirectory : w'.directory = w.directory) :
  EndAlike w w' id
    (w.perform (patchOne policy id (.deciding status notes) (actor.resolvedIn w.directory)))
    (w'.perform (decideStatus policy id (.noted status notes) actor))
  := by
  rw [decideStatus, perform_resolve_bind, hdirectory]
  generalize actor.resolvedIn w.directory = actor
  rw [patchOne, perform_commit_allowed patchChange_amends fun _ _ => rfl,
    perform_commit_allowed decisionChange_amends fun _ _ => rfl, hrecords, hclock]
  cases hfound : w.records.fetch id false with
  | none => exact .refused _ _ rfl
  | some before =>
    simp only
    by_cases permitted : actor.mayDo .bulkUpdate before
    case neg =>
      have forbidden : ¬ actor.mayDo .changeStatus before = true := permitted
      rw [if_neg permitted, if_neg forbidden]
      exact .refused _ _ rfl
    have permitted' : actor.mayDo .changeStatus before = true := permitted
    rw [if_pos permitted, if_pos permitted', Patch.applyTo_deciding]
    cases happlied : (Decision.noted status notes).applyTo before actor.userId w.clock with
    | error refused => exact .refused _ _ rfl
    | ok r =>
      obtain ⟨draft, move⟩ := r
      obtain ⟨submitted, hfinal, hdraft⟩ := Decision.applyTo_eq_ok happlied
      obtain ⟨hstored, -⟩ := Records.fetch_eq_some_iff.mp hfound
      simp only [Decision.reason_noted, Decision.notes_noted, Patch.notes_deciding]
      generalize hafter : draft.rewritten before policy.ttlDays w.clock = after
      have hname : after.applicationId = id := by
        rw [← hafter, ← Records.applicationId_of_find? hstored, hdraft]
        rfl
      have hmoved : (before.status != after.status) = true := by
        rw [← hafter, hdraft, submitted]
        simpa [Application.rewritten, Application.stamp] using Ne.symm hfinal
      rw [if_pos hmoved]
      exact endAlike_of_moved { before, after, outcome := move } actor.userId none notes _ _ hstored hname

end World

/-- The staff of a rescue and the administrators can decide on an application by itself, or
with a batch of one and nothing but notes.  In worlds that differ at most in their fresh names,
both go through or neither does.  If they do, the batch names the application as a success,
both leave the same records, with the same one stored under the name, and both tell the same
events but for their names.  If they do not, both are refused for the same kind of reason, and
nothing has changed. -/
theorem decisions_agree (policy : Policy) (w : World) (naming : Naming) (id : ApplicationId)
    (status : Status) (notes : Option String) (actor : Actor)
    (hactor : actor.role = .admin
      ∨ actor.role = .rescueStaff ∧ (actor.resolvedIn w.directory).rescueId.isSome) :
  let batch := w.perform (applyBatch policy ⟨[id], .deciding status notes⟩ actor)
  let single := { w with naming }.perform (decideStatus policy id (.noted status notes) actor)
  (∃ w₁ a w₂ events events', batch = (.ok ⟨[id], []⟩, w₁) ∧ single = (.ok a, w₂)
    ∧ w₁.records = w₂.records ∧ w₁.records.find? id = some a
    ∧ w₁.timeline = w.timeline ++ events ∧ w₂.timeline = w.timeline ++ events'
    ∧ events.map TimelineEvent.unnamed = events'.map TimelineEvent.unnamed)
  ∨ ∃ e e', batch = (.ok ⟨[], [⟨id, e⟩]⟩, w) ∧ single = (.error e', { w with naming })
    ∧ e.kind = e'.kind
  := by
  intro batch single
  have hscope : (actor.resolvedIn w.directory).mayDoFor .bulkUpdate
      (actor.resolvedIn w.directory).rescueId = true := by
    obtain hadmin | ⟨hstaff, hrescue⟩ := hactor
    · simp [Actor.mayDoFor, hadmin]
    · obtain ⟨rescue, hrescue⟩ := Option.isSome_iff_exists.mp hrescue
      simp [Actor.mayDoFor, hstaff, hrescue]
  have halike : World.EndAlike w { w with naming } id
      (w.perform (patchOne policy id (.deciding status notes) (actor.resolvedIn w.directory))) single :=
    World.patchOne_endAlike rfl rfl rfl
  have hbatch : batch = _ :=
    World.perform_applyBatch_of_scope (List.cons_ne_nil id []) rfl hscope
  rw [World.performEach_cons] at hbatch
  generalize w.perform (patchOne policy id (.deciding status notes) (actor.resolvedIn w.directory))
    = item at halike hbatch
  generalize single = result at halike
  cases halike with
  | refused e e' hkind =>
    right
    exact ⟨e, e', hbatch, rfl, hkind⟩
  | written before a events events' entries entries' hstored hname hevents =>
    left
    refine ⟨(w.write a).enter events entries, a, _, events, events', ?_, rfl, rfl, ?_, rfl, rfl, hevents⟩
    · rw [hbatch, ← hname]
      rfl
    · rw [World.enter_records, World.write_records, Records.find?_replace, if_pos hname, hstored]
      rfl

/-- The staff of the rescue approves an application with a batch of one and by itself. -/
theorem approvals_agree :
  ∃ w₁ a w₂ events events',
    Demo.applied.perform (applyBatch Demo.policy ⟨[⟨"app-1"⟩], .deciding .approved none⟩ Demo.staff)
      = (.ok ⟨[⟨"app-1"⟩], []⟩, w₁)
    ∧ Demo.applied.perform (decideStatus Demo.policy ⟨"app-1"⟩ (.noted .approved none) Demo.staff)
      = (.ok a, w₂)
    ∧ w₁.records = w₂.records ∧ w₁.records.find? ⟨"app-1"⟩ = some a
    ∧ w₁.timeline = Demo.applied.timeline ++ events ∧ w₂.timeline = Demo.applied.timeline ++ events'
    ∧ events.map TimelineEvent.unnamed = events'.map TimelineEvent.unnamed
  := by
  have hanswer : (Demo.applied.perform
      (applyBatch Demo.policy ⟨[⟨"app-1"⟩], .deciding .approved none⟩ Demo.staff)).1
      = .ok ⟨[⟨"app-1"⟩], []⟩ := by decide +kernel
  obtain hboth | ⟨e, e', hbatch, -⟩ := decisions_agree Demo.policy Demo.applied
    Demo.applied.naming ⟨"app-1"⟩ .approved none Demo.staff (.inr ⟨rfl, by decide +kernel⟩)
  · exact hboth
  · rw [hbatch] at hanswer
    simp at hanswer

end Rehoming
