import Rehoming.Answer.Basic
import Rehoming.Reference.Basic
import Rehoming.Text.Ascii
/-!
# Backfilling reference slots

The staff may name a slot past the end of the list.  The list then grows up to it: first by
the people named in the answers who are not listed yet, then by placeholders.
-/

namespace Rehoming

/-- A person named in the answers. -/
structure AnswerContact where
  name : String
  relationship : String
  phone : String
  email : Option String
  deriving DecidableEq, Repr

namespace AnswerContact

/-- The person a group of answers describes, if it has a name. -/
def ofGroup (answers : Answers) (key : String) (relationship : Answer → String) :
    List AnswerContact :=
  match Dictionary.get? key answers with
  | none => []
  | some a =>
    match a.field "name" with
    | none => []
    | some name => [⟨name, relationship a, (a.field "phone").getD "", a.field "email"⟩]

/-- What someone is called whose relationship is not told. -/
def personal : String := "Personal reference"

/-- The persons of a list of names. -/
def ofNames (answers : Answers) : List AnswerContact :=
  match Dictionary.get? "personal_references" answers with
  | some (.choices names) => names.map fun name => ⟨name, personal, "", none⟩
  | _ => []

/-- The people named in the answers, the veterinarian first. -/
def all (answers : Answers) : List AnswerContact :=
  let told (a : Answer) : String := (a.field "relationship").getD personal
  ofGroup answers "veterinarian" (fun _ => "Veterinarian")
    ++ ofGroup answers "personal_reference" told
    ++ ofGroup answers "emergency_contact" told
    ++ ofNames answers

/-- That somebody is the person a group of answers describes, whatever their relationship. -/
structure IsDescribed (c : AnswerContact) (a : Answer) : Prop where
  name : a.field "name" = some c.name
  phone : c.phone = (a.field "phone").getD ""
  email : c.email = a.field "email"

theorem mem_ofGroup_iff {answers : Answers} {key : String} {relationship : Answer → String}
    {c : AnswerContact} :
  c ∈ ofGroup answers key relationship
    ↔ ∃ a, Dictionary.get? key answers = some a ∧ c.IsDescribed a ∧ c.relationship = relationship a
  := by
  constructor
  · intro h
    rw [ofGroup] at h
    split at h
    next => cases h
    next a ha =>
      split at h
      next => cases h
      next name hname =>
        obtain rfl := List.mem_singleton.mp h
        exact ⟨a, ha, ⟨hname, rfl, rfl⟩, rfl⟩
  · rintro ⟨a, ha, ⟨hname, hphone, hemail⟩, hrelationship⟩
    simp only [ofGroup, ha, hname, ← hphone, ← hemail, ← hrelationship, List.mem_singleton]

theorem mem_ofNames_iff {answers : Answers} {c : AnswerContact} :
  c ∈ ofNames answers
    ↔ ∃ names, Dictionary.get? "personal_references" answers = some (.choices names)
      ∧ ∃ name ∈ names, c = ⟨name, personal, "", none⟩
  := by
  rw [ofNames]
  split
  next names hnames => simp [hnames, eq_comm]
  next hother =>
    constructor
    · nofun
    · rintro ⟨names, hnames, -⟩
      exact absurd hnames (hother names)

/-- Who is named in the answers: the veterinarian, the personal reference and whoever is there for
emergencies, each of them if described with a name, and everybody on the list of names. -/
theorem mem_all_iff {answers : Answers} {c : AnswerContact} :
  c ∈ all answers
    ↔ (∃ a, Dictionary.get? "veterinarian" answers = some a
        ∧ c.IsDescribed a ∧ c.relationship = "Veterinarian")
      ∨ (∃ key ∈ ["personal_reference", "emergency_contact"], ∃ a, Dictionary.get? key answers = some a
        ∧ c.IsDescribed a ∧ c.relationship = (a.field "relationship").getD personal)
      ∨ ∃ names, Dictionary.get? "personal_references" answers = some (.choices names)
        ∧ ∃ name ∈ names, c = ⟨name, personal, "", none⟩
  := by
  simp only [all, List.mem_append, mem_ofGroup_iff, mem_ofNames_iff, List.mem_cons, List.not_mem_nil,
    or_false, exists_eq_or_imp, exists_eq_left, or_assoc]

/-- Whether a slot is for this person: the same name, but for the case of ASCII letters, and
the same phone number. -/
def matchesSlot (c : AnswerContact) (slot : Reference) : Bool :=
  Text.equalIgnoringAsciiCase slot.name c.name && slot.phone == c.phone

/-- A fresh slot for a person. -/
def slot (c : AnswerContact) (index : Nat) : Reference where
  id := Reference.slotId index
  name := c.name
  relationship := c.relationship
  phone := c.phone
  email := c.email
  status := .pending
  notes := none
  contactedAt := none

end AnswerContact

namespace Reference

/-- A slot for someone yet unknown. -/
def placeholder (index : Nat) : Reference where
  id := slotId index
  name := "Reference " ++ toString (index + 1)
  relationship := "Unknown"
  phone := ""
  email := none
  status := .pending
  notes := none
  contactedAt := none

/-- The slots with those people added who are not listed, as long as there are fewer than
`size` slots. -/
def addContacts (size : Nat) : List Reference → List AnswerContact → List Reference
  | slots, [] => slots
  | slots, c :: r =>
    if size ≤ slots.length then slots
    else if slots.any c.matchesSlot then addContacts size slots r
    else addContacts size (slots ++ [c.slot slots.length]) r

/-- Placeholders for some positions in a row. -/
def placeholders (start count : Nat) : List Reference :=
  (List.range count).map fun i => placeholder (start + i)

/-- The slots, grown until the position `index` has one. -/
def ensureSlot (slots : List Reference) (index : Nat) (answers : Answers) : List Reference :=
  if index < slots.length then slots
  else
    let listed := addContacts (index + 1) slots (AnswerContact.all answers)
    listed ++ placeholders listed.length (index + 1 - listed.length)

end Reference

end Rehoming
