import Rehoming.Number.Natural
import Rehoming.Text.Lowercase
import Rehoming.Text.Blank
import Rehoming.Time.Instant
/-!
# References

The people who can speak for an applicant.  An application has a list of slots, one for
each of them; the slot at position `i` is called `ref-i`.  The contact details of a slot
come from the applicant, and the outcome of the check from the staff.
-/

namespace Rehoming

/-- How the check of a reference stands. -/
inductive ReferenceStatus where
  | pending
  | contacted
  | verified
  | failed
  deriving DecidableEq, Repr

namespace ReferenceStatus

/-- Every status. -/
def all : List ReferenceStatus := [pending, contacted, verified, failed]

/-- The written form. -/
def label : ReferenceStatus → String
  | pending => "pending"
  | contacted => "contacted"
  | verified => "verified"
  | failed => "failed"

end ReferenceStatus

/-- A reference as the applicant gives it. -/
structure ReferenceInput where
  id : Option String
  name : String
  relationship : String
  phone : String
  email : Option String
  deriving DecidableEq, Repr

/-- A slot for the check of a reference. -/
structure Reference where
  id : String
  name : String
  relationship : String
  phone : String
  email : Option String
  status : ReferenceStatus
  notes : Option String
  contactedAt : Option Time.Instant
  deriving DecidableEq, Repr

namespace Reference

/-- What the name of every slot begins with. -/
def idStem : String := "ref-"

/-- The name of the slot at a position. -/
def slotId (index : Nat) : String :=
  idStem ++ toString index

/-- The position of a slot by its name: digits after the stem, of 64 bits at most. -/
def slotIndex? (id : String) : Option Nat :=
  if idStem.toList.isPrefixOf id.toList then
    (Number.digits? (id.toList.drop idStem.length)).filter (· < Number.wordLimit 64)
  else none

/-- A fresh slot for a reference. -/
def pendingSlot (index : Nat) (input : ReferenceInput) : Reference where
  id := slotId index
  name := Text.trim input.name
  relationship := Text.trim input.relationship
  phone := Text.trim input.phone
  email := (input.email.map fun e => Text.lowercase (Text.trim e)).filter (· ≠ "")
  status := .pending
  notes := none
  contactedAt := none

/-- Fresh slots for references from a position on. -/
def seedFrom (index : Nat) : List ReferenceInput → List Reference
  | [] => []
  | input :: r => pendingSlot index input :: seedFrom (index + 1) r

/-- Fresh slots for references. -/
def seed (inputs : List ReferenceInput) : List Reference :=
  seedFrom 0 inputs

/-- The slot with other contact details; its name and the outcome of its check stay. -/
def withContact (slot contact : Reference) : Reference :=
  { slot with
    name := contact.name
    relationship := contact.relationship
    phone := contact.phone
    email := contact.email }

/-- The slots from a position on, with the contact details of the references given for them.
References without a slot get fresh ones, and slots without a reference stay. -/
def mergeFrom (index : Nat) : List Reference → List ReferenceInput → List Reference
  | slots, [] => slots
  | [], inputs => seedFrom index inputs
  | slot :: slots, input :: inputs =>
    slot.withContact (pendingSlot index input) :: mergeFrom (index + 1) slots inputs

/-- The slots with the contact details of the references given for them. -/
def mergeContacts (slots : List Reference) (inputs : List ReferenceInput) : List Reference :=
  mergeFrom 0 slots inputs

end Reference

end Rehoming
