import Rehoming.Reference.Basic
/-!
# Outcomes of reference checks

What the staff reports on a slot, and which slot is meant: the one named, else the one at
the given position, and only below the ceiling on the number of slots.
-/

namespace Rehoming

/-- Why no slot is meant. -/
inductive SlotError where
  | missing
  | malformed (id : String)
  | outOfRange (field : String) (index maxSlots : Nat)
  deriving DecidableEq, Repr

namespace SlotError

/-- The words for the caller. -/
def message : SlotError → String
  | missing => "a reference id or reference index is required"
  | malformed id =>
    "reference id '" ++ id ++ "' must be in format ref-X (e.g. ref-0, ref-1)"
  | outOfRange _ index maxSlots =>
    "reference slot " ++ toString index ++ " is out of range (at most " ++ toString maxSlots ++ " slots)"

end SlotError

/-- A report on the check of a reference. -/
structure ReferenceUpdate where
  referenceId : Option String
  referenceIndex : Option Nat
  status : ReferenceStatus
  notes : Option String
  contactedAt : Option Time.Instant
  deriving DecidableEq, Repr

namespace ReferenceUpdate

/-- The position of a slot by its name. -/
def indexOf (id : String) : Except SlotError Nat :=
  match Reference.slotIndex? id with
  | some index => .ok index
  | none => .error (.malformed id)

/-- A position below the ceiling. -/
def bounded (maxSlots : Nat) (field : String) (index : Nat) : Except SlotError Nat :=
  if index < maxSlots then .ok index else .error (.outOfRange field index maxSlots)

/-- The position of the slot that is meant. -/
def resolve (u : ReferenceUpdate) (maxSlots : Nat) : Except SlotError Nat :=
  match u.referenceId, u.referenceIndex with
  | some id, _ =>
    match indexOf id with
    | .ok index => bounded maxSlots "reference_id" index
    | .error e => .error e
  | none, some index => bounded maxSlots "reference_index" index
  | none, none => .error .missing

/-- The slot with the outcome reported; notes and contact time stay unless new ones are
given. -/
def applyTo (u : ReferenceUpdate) (slot : Reference) : Reference :=
  { slot with
    status := u.status
    notes := u.notes.or slot.notes
    contactedAt := u.contactedAt.or slot.contactedAt }

/-- What a report makes of a slot: its status is the one reported, new notes and a new contact time
take the place of those that it has, and everything else is as it was. -/
structure Reported (u : ReferenceUpdate) (before after : Reference) : Prop where
  status : after.status = u.status
  notes : ∀ s, after.notes = some s ↔ u.notes = some s ∨ u.notes = none ∧ before.notes = some s
  contactedAt : ∀ t, after.contactedAt = some t
    ↔ u.contactedAt = some t ∨ u.contactedAt = none ∧ before.contactedAt = some t
  id : after.id = before.id
  name : after.name = before.name
  relationship : after.relationship = before.relationship
  phone : after.phone = before.phone
  email : after.email = before.email

theorem eq_applyTo_iff {u : ReferenceUpdate} {before after : Reference} :
  after = u.applyTo before ↔ u.Reported before after
  := by
  constructor
  · rintro rfl
    exact ⟨rfl, fun _ => Option.or_eq_some_iff, fun _ => Option.or_eq_some_iff, rfl, rfl, rfl, rfl, rfl⟩
  · rintro ⟨hstatus, hnotes, hcontacted, hid, hname, hrelationship, hphone, hemail⟩
    have hnotes' : after.notes = u.notes.or before.notes :=
      Option.ext fun s => (hnotes s).trans Option.or_eq_some_iff.symm
    have hcontacted' : after.contactedAt = u.contactedAt.or before.contactedAt :=
      Option.ext fun t => (hcontacted t).trans Option.or_eq_some_iff.symm
    rw [applyTo, ← hstatus, ← hnotes', ← hcontacted', ← hid, ← hname, ← hrelationship, ← hphone,
      ← hemail]

/-- The slots with the outcome reported on one of them. -/
def apply (u : ReferenceUpdate) (index : Nat) (slots : List Reference) : List Reference :=
  slots.modify index u.applyTo

end ReferenceUpdate

end Rehoming
