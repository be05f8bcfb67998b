import Rehoming.Proofs.Performing.Books
import Rehoming.Proofs.Performing.Session
import Rehoming.Proofs.Sharing.Requests
import Rehoming.Proofs.Time.Instant
/-!
# Audits

Whatever somebody makes of a stored application, the audit log gains an entry about that
application and that user.  There is one gap: notes that come with the choice of the stage
that the application has already are stored, but no entry tells of them.
-/

namespace Rehoming

open Service

/-! ### The dates of stored applications -/

/-- That an application has the time of its submission, and that of its expiry if the calendar
has it. -/
structure Application.Dated (policy : Policy) (a : Application) : Prop where
  submitted : a.submittedAt.isSome = true
  expires : a.expiresAt = none → a.createdAt.addDays? policy.ttlDays = none

section Dated

variable {policy : Policy} {before draft : Application} {user : UserId} {now : Time.Instant}

/-- No amendment touches the dates. -/
theorem Course.dates (h : Course user now before draft) :
  draft.createdAt = before.createdAt ∧ draft.submittedAt = before.submittedAt
    ∧ draft.expiresAt = before.expiresAt
  := by
  cases h with
  | edit | follow | stage | settle | delete => exact ⟨rfl, rfl, rfl⟩

theorem Application.Dated.amend (h : before.Dated policy) (hcourse : Course user now before draft)
    (version : Nat) :
  Application.Dated policy { draft.stamp now policy.ttlDays with version }
  := by
  obtain ⟨hcreated, hsubmitted, hexpires⟩ := hcourse.dates
  constructor
  case submitted =>
    obtain ⟨t, ht⟩ := Option.isSome_iff_exists.mp h.submitted
    rw [← hsubmitted] at ht
    have hstamped : (draft.stamp now policy.ttlDays).submittedAt = some t :=
      stamp_submittedAt_of_some ht
    exact Option.isSome_iff_exists.mpr ⟨t, hstamped⟩
  case expires =>
    intro hnone
    have hbefore : before.expiresAt = none := by
      simp only [stamp, hexpires] at hnone
      split at hnone
      · exact (Option.or_eq_none_iff.mp hnone).1
      · exact hnone
    exact (congrArg (Time.Instant.addDays? · policy.ttlDays) hcreated).trans (h.expires hbefore)

/-- All applications that clients have stored are dated. -/
theorem System.stored_dated {ι : Type} [DecidableEq ι] (policy : Policy) (requests : ι → Request)
    (w : Rehoming.World) (moves : List (Move ι)) :
  ∀ a ∈ ((ofRequests policy requests { w with records := [] }).run moves).world.records,
    a.Dated policy
  := by
  apply stored_induction
  · intro s id user pet rescue now
    exact ⟨rfl, fun hnone => hnone⟩
  · intro user now before draft hcourse hdated
    exact hdated.amend hcourse (before.version + 1)

end Dated

/-! ### What stays untold -/

/-- What a request makes of an application without an entry in the audit log: it leaves the
traces of a write, and adds the notes to the choice of the stage that there is already.  An
unknown time of expiry becomes known if the clock has gone back behind the submission. -/
structure Request.Untold (r : Request) (now : Time.Instant) (before after : Application) : Prop where
  same : after = { before with
    notes := after.notes, expiresAt := after.expiresAt, updatedAt := after.updatedAt,
    version := after.version }
  notes : after.notes = before.notes
    ∨ ∃ id c actor, r = .mutation (.chooseStage id c actor) ∧ c.stage = before.stage
      ∧ after.notes = Application.notesWith before.notes c.notes
  expires : after.expiresAt = before.expiresAt
    ∨ before.expiresAt = none ∧ ¬ before.createdAt ≤ now

/-- The mutations that log nothing, with what they make of a record before the write. -/
inductive Mutation.Silent (before : Application) : Mutation → Application → Prop
  | editInVain (id : ApplicationId) (e : Edit) (actor : Actor) :
      before.status = .submitted → Silent before (.edit id e actor) before
  | keepStage (id : ApplicationId) (c : StageChoice) (actor : Actor) :
      before.status = .submitted → c.stage = before.stage →
      Silent before (.chooseStage id c actor)
        { before with notes := Application.notesWith before.notes c.notes }

section Untold

variable {policy : Policy} {m : Mutation} {r : Request} {now : Time.Instant}
  {before after draft : Application} {events : List TimelineEvent} {entries : List AuditEntry}

theorem Request.Untold.refl (a : Application) :
  r.Untold now a a
  := ⟨rfl, .inl rfl, .inl rfl⟩

/-- A write of other notes leaves a waiting application as it is otherwise. -/
theorem Request.Untold.write (hdated : before.Dated policy) (hwaiting : before.status = .submitted)
    {notes : Option String}
    (hnotes : notes = before.notes
      ∨ ∃ id c actor, r = .mutation (.chooseStage id c actor) ∧ c.stage = before.stage
        ∧ notes = Application.notesWith before.notes c.notes) :
  r.Untold now before ({ before with notes }.rewritten before policy.ttlDays now)
  := by
  constructor
  case same =>
    obtain ⟨t, ht⟩ := Option.isSome_iff_exists.mp hdated.submitted
    simp [Application.rewritten, Application.stamp, hwaiting, ht, Status.isFinal]
  case notes => exact hnotes
  case expires =>
    simp only [Application.rewritten, Application.stamp, hwaiting, if_true]
    cases hexpires : before.expiresAt with
    | some t => exact .inl rfl
    | none =>
      by_cases hclock : before.createdAt ≤ now
      · left
        apply Time.Instant.addDays?_eq_none_of_le hclock (hdated.expires hexpires)
      · exact .inr ⟨rfl, hclock⟩

theorem Mutation.Silent.untold (h : m.Silent before draft) (hdated : before.Dated policy) :
  (Request.mutation m).Untold now before (draft.rewritten before policy.ttlDays now)
  := by
  cases h with
  | editInVain id e actor hwaiting => exact .write hdated hwaiting (.inl rfl)
  | keepStage id c actor hwaiting hkept =>
    exact .write hdated hwaiting (.inr ⟨id, c, actor, rfl, hkept, rfl⟩)

/-- Every mutation that is not silent logs who has done something to which application. -/
theorem Mutation.Enacts.logged (h : m.Enacts now before after draft events entries) :
  (∃ e ∈ entries, e.entityId = after.applicationId.text ∧ e.userId = m.actor.userId)
    ∨ m.Silent before draft
  := by
  cases h with
  | edit | decide | withdraw | check | attach | chooseStage | delete | label | patch =>
    exact .inl ⟨_, List.mem_singleton_self _, rfl, rfl⟩
  | editInVain id e actor hwaiting hchanges =>
    right
    rw [Edit.applyTo_eq_self hchanges]
    exact .editInVain id e actor hwaiting
  | keepStage id c actor _ hwaiting hkept =>
    right
    have hdraft : c.applyTo before
        = { before with notes := Application.notesWith before.notes c.notes } := by
      rw [c.applyTo_eq, ← hkept]
    rw [hdraft]
    exact .keepStage id c actor hwaiting hkept.symm

end Untold

/-! ### Audited worlds -/

namespace World

variable {policy : Policy} {w w' w'' : World} {user : UserId}
  {Untold Untold' : Application → Application → Prop}

/-- That the audit log of a later world goes on from that of a world, and tells of whatever a
user has made of any application in between, but for what may stay untold. -/
def Audits (w later : World) (user : UserId) (Untold : Application → Application → Prop) : Prop :=
  ∃ entries, later.audit = w.audit ++ entries
    ∧ ∀ id b, later.records.find? id = some b →
      (∃ e ∈ entries, e.entityId = id.text ∧ e.userId = user)
      ∨ ∃ a, w.records.find? id = some a ∧ Untold a b

theorem Audits.refl (hrefl : ∀ a, Untold a a) :
  w.Audits w user Untold
  := by
  use [], (List.append_nil w.audit).symm
  intro id b hb
  exact .inr ⟨b, hb, hrefl b⟩

theorem Audits.mono (h : w.Audits w' user Untold) (himp : ∀ a b, Untold a b → Untold' a b) :
  w.Audits w' user Untold'
  := by
  obtain ⟨entries, haudit, htold⟩ := h
  use entries, haudit
  intro id b hb
  obtain hlogged | ⟨a, ha, huntold⟩ := htold id b hb
  · exact .inl hlogged
  · exact .inr ⟨a, ha, himp a b huntold⟩

theorem Audits.trans (h : w.Audits w' user Eq) (h' : w'.Audits w'' user Eq) :
  w.Audits w'' user Eq
  := by
  obtain ⟨entries, haudit, htold⟩ := h
  obtain ⟨entries', haudit', htold'⟩ := h'
  use entries ++ entries'
  constructor
  · rw [haudit', haudit, List.append_assoc]
  · intro id b hb
    obtain ⟨e, he, hnames⟩ | ⟨a, ha, rfl⟩ := htold' id b hb
    · exact .inl ⟨e, List.mem_append_right entries he, hnames⟩
    · obtain ⟨e, he, hnames⟩ | hsame := htold id a ha
      · exact .inl ⟨e, List.mem_append_left entries' he, hnames⟩
      · exact .inr hsame

/-- A mutation is audited as far as what the silent ones write may stay untold. -/
theorem audits_perform (m : Mutation) (hrefl : ∀ a, Untold a a)
    (hsilent : ∀ before draft, before ∈ w.records → m.Silent before draft →
      Untold before (draft.rewritten before policy.ttlDays w.clock)) :
  w.Audits (w.perform (m.service policy)).2 m.actor.userId Untold
  := by
  have hends := m.perform_ends policy w
  generalize hresult : w.perform (m.service policy) = result at hends
  cases hends with
  | refused => exact .refl hrefl
  | filed s actor a petName name entry hm hdrafted hinsert =>
    obtain ⟨hfree, -, -⟩ := Records.insert_eq_ok_iff.mp hinsert
    obtain ⟨pet, rescue, hmade⟩ := eq_of_drafted hdrafted
    refine ⟨_, rfl, ?_⟩
    intro id b hb
    have hfound := (Records.find?_append_of_free hfree).symm.trans hb
    split at hfound
    next hid =>
      left
      refine ⟨_, List.mem_singleton_self _, congrArg ApplicationId.text hid, ?_⟩
      rw [hm, submittedEntry, hmade]
      rfl
    next => exact .inr ⟨b, hfound, hrefl b⟩
  | amended before draft events entries htarget hstored hdeleted henacts =>
    use entries, rfl
    intro id b hb
    rw [enter_records, write_records, Records.find?_replace] at hb
    split at hb
    next hid =>
      have hname : before.applicationId = id := henacts.applicationId.symm.trans hid
      rw [← hname, hstored] at hb
      obtain rfl := Option.some.inj hb
      obtain ⟨e, he, hentity, huser⟩ | hquiet := henacts.logged
      · exact .inl ⟨e, he, hentity.trans (congrArg ApplicationId.text hid), huser⟩
      · right
        rw [← hname]
        exact ⟨before, hstored, hsilent before draft (Records.mem_of_find? hstored) hquiet⟩
    next => exact .inr ⟨b, hb, hrefl b⟩

/-- Nothing of an item of a batch stays untold. -/
theorem audits_patchOne (id : ApplicationId) (p : Patch) (actor : Actor) :
  w.Audits (w.perform (Service.patchOne policy id p actor)).2 actor.userId Eq
  := by
  apply audits_perform (.patch id p actor) fun _ => rfl
  intro before draft _ hsilent
  cases hsilent

end World

/-- Every request is audited. -/
theorem Request.audits {policy : Policy} {w : World} {r : Request} {actor : Actor}
    (hactor : r.AskedBy actor) (hdated : ∀ a ∈ w.records, a.Dated policy) :
  w.Audits (w.perform (r.service policy)).2 actor.userId (r.Untold w.clock)
  := by
  cases r with
  | mutation m =>
    rw [← show m.actor = actor from hactor]
    apply World.audits_perform m Untold.refl
    intro before draft hstored hsilent
    exact hsilent.untold (hdated before hstored)
  | batch b asker =>
    rw [← show asker = actor from hactor]
    have hbatch : w.Audits (w.perform (Service.applyBatch policy b asker)).2 asker.userId Eq := by
      obtain ⟨e, hrefused⟩ | ⟨items, rfl, hitems⟩ := Service.perform_applyBatch policy b asker w
      · rw [hrefused]
        exact .refl fun _ => rfl
      · rw [hitems]
        apply World.performEach_induction (P := fun later => w.Audits later asker.userId Eq)
          (.refl fun _ => rfl)
        intro id _ w' h
        apply h.trans
        rw [← asker.resolvedIn_userId w.directory]
        apply World.audits_patchOne
    apply hbatch.mono
    rintro a b rfl
    exact .refl a
  | _ =>
    rw [perform_snd_of_isLook rfl]
    exact .refl Untold.refl

namespace System

variable {ι : Type} [DecidableEq ι]

/-- Whatever has happened before, an actor who asks for something leaves an entry in the audit
log about every application that has been filed or changed, but for the notes that come with
the choice of the stage that it has already; and nothing at all that an item of a batch has
changed stays untold. -/
theorem changes_audited (policy : Policy) (requests : ι → Request) (w : Rehoming.World)
    (moves : List (Move ι)) (t : Moment) (r : Request) (actor : Actor) (hactor : r.AskedBy actor) :
  let w' := ((ofRequests policy requests { w with records := [] }).run moves).world.atMoment t
  w'.Audits (w'.perform (r.service policy)).2 actor.userId (r.Untold t.clock)
  ∧ ∀ b, r = .batch b actor →
      ∀ item ∈ w'.performEach policy b.updates (actor.resolvedIn w'.directory) b.applicationIds,
        item.start.Audits item.finish actor.userId Eq
  := by
  intro w'
  constructor
  · apply Request.audits hactor
    exact stored_dated policy requests w moves
  · rintro b - item hitem
    have haudits : item.start.Audits (item.start.perform (Service.patchOne policy item.id b.updates
        (actor.resolvedIn w'.directory))).2 (actor.resolvedIn w'.directory).userId Eq :=
      World.audits_patchOne item.id b.updates (actor.resolvedIn w'.directory)
    rw [World.eq_of_mem_performEach hitem, Actor.resolvedIn_userId] at haudits
    exact haudits

end System

namespace Demo

/-- The world in which the adopter has applied for the pet, a minute later. -/
def waiting : World :=
  (start.run (turns 0 11 0)).world.atMoment (moment 60)

/-- The staff choose the stage that the application has already, and add notes. -/
def remark : Mutation :=
  .chooseStage ⟨"app-1"⟩ ⟨.pending, some "Landlord rang back"⟩ staff

/-- The notes of the staff are stored, and the audit log gains no entry. -/
theorem remark_unaudited :
  let later := (waiting.perform (remark.service policy)).2
  (waiting.perform (remark.service policy)).1.isOk = true
  ∧ (waiting.records.find? ⟨"app-1"⟩).map Application.notes = some none
  ∧ (later.records.find? ⟨"app-1"⟩).map Application.notes = some (some "Landlord rang back")
  ∧ later.audit.length = waiting.audit.length
  := by decide +kernel

end Demo

/-- The approval by the administrator has its entry behind that of the submission. -/
theorem System.approval_audited :
  (Demo.adoption 1).AskedBy Demo.admin
  ∧ Demo.waiting.Audits (Demo.waiting.perform ((Demo.adoption 1).service Demo.policy)).2
      Demo.admin.userId ((Demo.adoption 1).Untold (Demo.moment 60).clock)
  ∧ (Demo.waiting.perform ((Demo.adoption 1).service Demo.policy)).2.audit.map AuditEntry.userId
    = [Demo.adopter.userId, Demo.admin.userId]
  := by
  use rfl
  constructor
  · exact (changes_audited Demo.policy Demo.adoption Demo.informalWorld (Demo.turns 0 11 0)
      (Demo.moment 60) (Demo.adoption 1) Demo.admin rfl).1
  · decide +kernel

end Rehoming
