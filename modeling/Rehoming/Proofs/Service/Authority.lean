import Rehoming.Proofs.Reference.Slots
import Rehoming.Proofs.Service.Amendment
import Mathlib.Data.List.Infix
/-!
# Who may change what

An amendment of a record is made by its owner or by somebody who administers it, the staff of
its rescue and the administrators.  Each of the two has fields of its own that the other one
cannot touch, down to the slots of the references: what the owner says of a person is not
changed by the staff, and what the staff reports of the check is not changed by the owner.
-/

namespace Rehoming

/-- Whether an actor administers an application. -/
def Actor.Administers (actor : Actor) (a : Application) : Prop :=
  actor.role = .admin ∨ actor.role = .rescueStaff ∧ actor.rescueId = some a.rescueId

/-- That a slot may have become another one: its contact details changed only if it is the
owner who has changed it, and the outcome of its check only if it is an administration. -/
structure Reference.AmendedBy (owned administered : Prop) (slot later : Reference) : Prop where
  id : later.id = slot.id
  contact : ¬owned → later.name = slot.name ∧ later.relationship = slot.relationship
    ∧ later.phone = slot.phone ∧ later.email = slot.email
  outcome : ¬administered → later.status = slot.status ∧ later.notes = slot.notes
    ∧ later.contactedAt = slot.contactedAt

/-- That an actor may have made one record of another one. -/
structure Application.AmendedBy (actor : Actor) (a b : Application) : Prop where
  names : b.applicationId = a.applicationId ∧ b.userId = a.userId ∧ b.petId = a.petId
    ∧ b.rescueId = a.rescueId
  authority : a.userId = actor.userId ∨ actor.Administers a
  contents : ¬a.userId = actor.userId →
    b.answers = a.answers ∧ b.documents = a.documents ∧ b.interviewNotes = a.interviewNotes
    ∧ b.homeVisitNotes = a.homeVisitNotes ∧ b.score = a.score ∧ b.deletedAt = a.deletedAt
  decision : ¬actor.Administers a →
    (b.status = a.status ∨ b.status = .withdrawn) ∧ (b.status = .submitted → b.stage = a.stage)
    ∧ b.rejectionReason = a.rejectionReason ∧ b.followUpDate = a.followUpDate
  references : ∀ (i : Nat) (slot : Reference), a.references[i]? = some slot →
    ∃ later, b.references[i]? = some later
      ∧ slot.AmendedBy (a.userId = actor.userId) (actor.Administers a) later

/-! ### Slots -/

namespace Reference

variable {owned administered : Prop} {slot later last : Reference} {slots : List Reference}

theorem AmendedBy.refl (slot : Reference) :
  slot.AmendedBy owned administered slot
  := ⟨rfl, fun _ => ⟨rfl, rfl, rfl, rfl⟩, fun _ => ⟨rfl, rfl, rfl⟩⟩

theorem AmendedBy.trans (h : slot.AmendedBy owned administered later)
    (h' : later.AmendedBy owned administered last) :
  slot.AmendedBy owned administered last
  := by
  refine ⟨h'.id.trans h.id, ?_, ?_⟩
  · intro hnot
    obtain ⟨hname, hrelationship, hphone, hemail⟩ := h.contact hnot
    obtain ⟨hname', hrelationship', hphone', hemail'⟩ := h'.contact hnot
    exact ⟨hname'.trans hname, hrelationship'.trans hrelationship, hphone'.trans hphone,
      hemail'.trans hemail⟩
  · intro hnot
    obtain ⟨hstatus, hnotes, hcontacted⟩ := h.outcome hnot
    obtain ⟨hstatus', hnotes', hcontacted'⟩ := h'.outcome hnot
    exact ⟨hstatus'.trans hstatus, hnotes'.trans hnotes, hcontacted'.trans hcontacted⟩

/-- Contact details are merged slot by slot, and no slot is lost. -/
theorem mergeFrom_amended {index i : Nat} {inputs : List ReferenceInput} (howned : owned)
    (h : slots[i]? = some slot) :
  ∃ later, (mergeFrom index slots inputs)[i]? = some later ∧ slot.AmendedBy owned administered later
  := by
  rw [getElem?_mergeFrom, h]
  cases inputs[i]? with
  | none => exact ⟨slot, rfl, .refl slot⟩
  | some input =>
    use slot.withContact (pendingSlot (index + i) input), rfl
    exact ⟨rfl, fun hnot => (hnot howned).elim, fun _ => ⟨rfl, rfl, rfl⟩⟩

theorem prefix_addContacts (size : Nat) (slots : List Reference) (contacts : List AnswerContact) :
  slots <+: addContacts size slots contacts
  := by
  induction contacts generalizing slots with
  | nil => rfl
  | cons c rest ih =>
    rw [addContacts]
    split
    · rfl
    · split
      · apply ih
      · apply (List.prefix_append ..).trans (ih _)

/-- Slots are only added behind the ones there are. -/
theorem prefix_ensureSlot (slots : List Reference) (index : Nat) (answers : Answers) :
  slots <+: ensureSlot slots index answers
  := by
  rw [ensureSlot]
  split
  · rfl
  · apply (prefix_addContacts ..).trans (List.prefix_append ..)

end Reference

/-- A report on a slot keeps every slot, and the contact details of each. -/
theorem ReferenceUpdate.apply_amended {owned administered : Prop} {u : ReferenceUpdate}
    {index i : Nat} {slot : Reference} {slots : List Reference} (hadministered : administered)
    (h : slots[i]? = some slot) :
  ∃ later, (u.apply index slots)[i]? = some later ∧ slot.AmendedBy owned administered later
  := by
  rw [apply, List.getElem?_modify, h]
  refine ⟨if index = i then u.applyTo slot else slot, rfl, ?_⟩
  split
  · exact ⟨rfl, fun _ => ⟨rfl, rfl, rfl, rfl⟩, fun hnot => (hnot hadministered).elim⟩
  · exact .refl slot

/-! ### Records -/

section

variable {actor : Actor} {a b c : Application}

/-- What the owner alone may do. -/
theorem Actor.owns_of_mayDo {operation : Operation} (h : actor.mayDo operation a = true)
    (hoperation : operation = .updateContent ∨ operation = .withdraw ∨ operation = .addDocument
      ∨ operation = .delete) :
  a.userId = actor.userId
  := by
  obtain rfl | rfl | rfl | rfl := hoperation
  all_goals simpa [mayDo, Application.isOwnedBy] using h

/-- What an administration alone may do. -/
theorem Actor.administers_of_mayDo {operation : Operation} (h : actor.mayDo operation a = true)
    (hoperation : operation = .changeStatus ∨ operation = .changeStage
      ∨ operation = .updateReference ∨ operation = .bulkUpdate) :
  actor.Administers a
  := by
  rw [Administers]
  cases hrole : actor.role with
  | admin => exact .inl rfl
  | rescueStaff =>
    right
    use rfl
    obtain rfl | rfl | rfl | rfl := hoperation
    all_goals simpa [mayDo, hrole, sharesRescue] using h
  | adopter =>
    obtain rfl | rfl | rfl | rfl := hoperation
    all_goals simp [mayDo, hrole] at h

/-- Whoever an actor acts as with more authority may change what the actor may. -/
theorem Application.AmendedBy.of_actor {actor' : Actor} (h : a.AmendedBy actor b)
    (huser : actor'.userId = actor.userId) (hmore : actor.Administers a → actor'.Administers a) :
  a.AmendedBy actor' b
  := by
  have howner : a.userId = actor.userId → a.userId = actor'.userId := by
    rw [huser]
    exact id
  refine ⟨h.names, h.authority.imp howner hmore, ?_, ?_, ?_⟩
  · intro hnot
    exact h.contents (mt howner hnot)
  · intro hnot
    exact h.decision (mt hmore hnot)
  · intro i slot hslot
    obtain ⟨later, hlater, hamended⟩ := h.references i slot hslot
    refine ⟨later, hlater, hamended.id, ?_, ?_⟩
    · intro hnot
      exact hamended.contact (mt howner hnot)
    · intro hnot
      exact hamended.outcome (mt hmore hnot)

/-- One amendment after another is an amendment. -/
theorem Application.AmendedBy.trans (h : a.AmendedBy actor b) (h' : b.AmendedBy actor c) :
  a.AmendedBy actor c
  := by
  obtain ⟨hid, huser, hpet, hrescue⟩ := h.names
  obtain ⟨hid', huser', hpet', hrescue'⟩ := h'.names
  have hadministers : actor.Administers b ↔ actor.Administers a := by
    rw [Actor.Administers, Actor.Administers, hrescue]
  refine ⟨⟨hid'.trans hid, huser'.trans huser, hpet'.trans hpet, hrescue'.trans hrescue⟩,
    h.authority, ?_, ?_, ?_⟩
  · intro hnot
    obtain ⟨h₁, h₂, h₃, h₄, h₅, h₆⟩ := h.contents hnot
    obtain ⟨h₁', h₂', h₃', h₄', h₅', h₆'⟩ := h'.contents (huser ▸ hnot)
    exact ⟨h₁'.trans h₁, h₂'.trans h₂, h₃'.trans h₃, h₄'.trans h₄, h₅'.trans h₅, h₆'.trans h₆⟩
  · intro hnot
    obtain ⟨hstatus, hstage, hreason, hdate⟩ := h.decision hnot
    obtain ⟨hstatus', hstage', hreason', hdate'⟩ := h'.decision (mt hadministers.mp hnot)
    refine ⟨?_, ?_, hreason'.trans hreason, hdate'.trans hdate⟩
    · obtain hsame | hwithdrawn := hstatus'
      · rw [hsame]
        exact hstatus
      · exact .inr hwithdrawn
    · intro hsubmitted
      obtain hsame | hwithdrawn := hstatus'
      · rw [hstage' hsubmitted]
        apply hstage
        rw [← hsame, hsubmitted]
      · rw [hwithdrawn] at hsubmitted
        cases hsubmitted
  · intro i slot hslot
    obtain ⟨between, hbetween, hfirst⟩ := h.references i slot hslot
    obtain ⟨later, hlater, hsecond⟩ := h'.references i between hbetween
    rw [huser, hadministers] at hsecond
    exact ⟨later, hlater, hfirst.trans hsecond⟩

/-- What the owner has changed, who leaves the outcomes of the checks and does not decide. -/
theorem Application.AmendedBy.of_owner (hnames : b.applicationId = a.applicationId
      ∧ b.userId = a.userId ∧ b.petId = a.petId ∧ b.rescueId = a.rescueId)
    (howner : a.userId = actor.userId)
    (hdecision : (b.status = a.status ∨ b.status = .withdrawn)
      ∧ (b.status = .submitted → b.stage = a.stage)
      ∧ b.rejectionReason = a.rejectionReason ∧ b.followUpDate = a.followUpDate)
    (hreferences : ∀ (i : Nat) (slot : Reference), a.references[i]? = some slot →
      ∃ later, b.references[i]? = some later
        ∧ slot.AmendedBy (a.userId = actor.userId) (actor.Administers a) later) :
  a.AmendedBy actor b
  := ⟨hnames, .inl howner, fun hnot => (hnot howner).elim, fun _ => hdecision, hreferences⟩

/-- What an administration has changed, which leaves the contents and the contact details. -/
theorem Application.AmendedBy.of_administration (hnames : b.applicationId = a.applicationId
      ∧ b.userId = a.userId ∧ b.petId = a.petId ∧ b.rescueId = a.rescueId)
    (hadministers : actor.Administers a)
    (hcontents : b.answers = a.answers ∧ b.documents = a.documents
      ∧ b.interviewNotes = a.interviewNotes ∧ b.homeVisitNotes = a.homeVisitNotes
      ∧ b.score = a.score ∧ b.deletedAt = a.deletedAt)
    (hreferences : ∀ (i : Nat) (slot : Reference), a.references[i]? = some slot →
      ∃ later, b.references[i]? = some later
        ∧ slot.AmendedBy (a.userId = actor.userId) (actor.Administers a) later) :
  a.AmendedBy actor b
  := ⟨hnames, .inr hadministers, fun _ => hcontents, fun hnot => (hnot hadministers).elim, hreferences⟩

end

variable {E : World → Prop} {policy : Policy} {actor : Actor} {now : Time.Instant}
  {before draft : Application}

/-- Every amendment is made by somebody who may make it, and touches only what that one may
touch. -/
theorem Amends.amendedBy (h : Amends E policy actor now before draft) :
  before.AmendedBy actor draft
  := by
  have hkept : ∀ (i : Nat) (slot : Reference), before.references[i]? = some slot →
      ∃ later, before.references[i]? = some later
        ∧ slot.AmendedBy (before.userId = actor.userId) (actor.Administers before) later := by
    intro i slot hslot
    exact ⟨slot, hslot, .refl slot⟩
  cases h with
  | edit e hfaults may submitted hanswers =>
    have howner := Actor.owns_of_mayDo may (by simp)
    refine .of_owner ⟨rfl, rfl, rfl, rfl⟩ howner ⟨.inl rfl, fun _ => rfl, rfl, rfl⟩ ?_
    intro i slot hslot
    rw [Edit.applyTo]
    cases e.references with
    | none => exact hkept i slot hslot
    | some inputs => exact Reference.mergeFrom_amended howner hslot
  | decide d draft move may h =>
    obtain ⟨-, -, rfl⟩ := Decision.applyTo_eq_ok h
    exact .of_administration ⟨rfl, rfl, rfl, rfl⟩ (Actor.administers_of_mayDo may (by simp))
      ⟨rfl, rfl, rfl, rfl, rfl, rfl⟩ hkept
  | withdraw w draft move may h =>
    obtain ⟨-, rfl⟩ := Withdrawal.applyTo_eq_ok h
    exact .of_owner ⟨rfl, rfl, rfl, rfl⟩ (Actor.owns_of_mayDo may (by simp))
      ⟨.inr rfl, by rintro ⟨⟩, rfl, rfl⟩ hkept
  | check u index hindex may =>
    have hadministers := Actor.administers_of_mayDo may (by simp)
    refine .of_administration ⟨rfl, rfl, rfl, rfl⟩ hadministers ⟨rfl, rfl, rfl, rfl, rfl, rfl⟩ ?_
    intro i slot hslot
    apply ReferenceUpdate.apply_amended hadministers
    obtain ⟨added, hgrown⟩ := Reference.prefix_ensureSlot before.references index before.answers
    rw [← hgrown, List.getElem?_append_left (List.getElem?_eq_some_iff.mp hslot).1]
    exact hslot
  | attach u name hfaults may =>
    exact .of_owner ⟨rfl, rfl, rfl, rfl⟩ (Actor.owns_of_mayDo may (by simp))
      ⟨.inl rfl, fun _ => rfl, rfl, rfl⟩ hkept
  | chooseStage c hfaults may submitted =>
    rw [c.applyTo_eq]
    exact .of_administration ⟨rfl, rfl, rfl, rfl⟩ (Actor.administers_of_mayDo may (by simp))
      ⟨rfl, rfl, rfl, rfl, rfl, rfl⟩ hkept
  | delete may submitted =>
    exact .of_owner ⟨rfl, rfl, rfl, rfl⟩ (Actor.owns_of_mayDo may (by simp))
      ⟨.inl rfl, fun _ => rfl, rfl, rfl⟩ hkept
  | patch p draft move may h =>
    have hadministers := Actor.administers_of_mayDo may (by simp)
    obtain ⟨-, rfl⟩ | ⟨target, -, -, -, rfl⟩ := Patch.applyTo_eq_ok h
    · exact .of_administration ⟨rfl, rfl, rfl, rfl⟩ hadministers ⟨rfl, rfl, rfl, rfl, rfl, rfl⟩ hkept
    · exact .of_administration ⟨rfl, rfl, rfl, rfl⟩ hadministers ⟨rfl, rfl, rfl, rfl, rfl, rfl⟩ hkept

end Rehoming
