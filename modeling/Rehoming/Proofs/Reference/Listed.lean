import Rehoming.Proofs.Reference.Contacts
/-!
# People who are listed already

A list that grows passes over the people who have a slot.  The references of a submission have
slots in their stored form, without white space at the ends of their names and phone numbers, and
the people named in the answers are compared as they are.  So somebody who is named in the answers
just as in the references is passed over if there is no such white space, and may be added again
if there is.
-/

namespace Rehoming

open Text

/-! ### Texts that are compared -/

/-- Apart from the case of ASCII letters a text is its trimmed form only if it is trimmed. -/
theorem Text.equalIgnoringAsciiCase_trim_iff {s : String} :
  equalIgnoringAsciiCase (trim s) s = true ↔ trim s = s
  := by
  constructor
  · intro h
    rw [equalIgnoringAsciiCase, beq_iff_eq] at h
    have hlength : (trim s).toList.length = s.toList.length := by
      have hboth := congrArg (fun t => t.toList.length) h
      simpa [asciiLowercase] using hboth
    obtain ⟨front, back, heq, -⟩ := exists_eq_append_trimChars s.toList
    rw [trim, String.toList_ofList] at hlength
    have hends := congrArg List.length heq
    rw [List.length_append, List.length_append] at hends
    have hfront : front = [] := List.length_eq_zero_iff.mp (by omega)
    have hback : back = [] := List.length_eq_zero_iff.mp (by omega)
    rw [hfront, hback, List.nil_append, List.append_nil] at heq
    rw [trim, ← heq, String.ofList_toList]
  · intro h
    rw [h, equalIgnoringAsciiCase, beq_self_eq_true]

namespace AnswerContact

variable {c c' : AnswerContact} {slot : Reference} {slots : List Reference} {index : Nat}

theorem matchesSlot_iff :
  c.matchesSlot slot = true
    ↔ asciiLowercase slot.name = asciiLowercase c.name ∧ slot.phone = c.phone
  := by
  rw [matchesSlot, equalIgnoringAsciiCase, Bool.and_eq_true, beq_iff_eq, beq_iff_eq]

/-- The answers that describe a person. -/
def groupKeys : List String := ["veterinarian", "personal_reference", "emergency_contact"]

/-- Whoever is described and has a name is among the people named in the answers. -/
theorem exists_mem_all {answers : Answers} {key name : String} {contact : Answer}
    (hkey : key ∈ groupKeys) (hcontact : Dictionary.get? key answers = some contact)
    (hname : contact.field "name" = some name) :
  ∃ c ∈ all answers, c.name = name ∧ c.phone = (contact.field "phone").getD ""
  := by
  have hdescribed (relationship : String) :
      IsDescribed ⟨name, relationship, (contact.field "phone").getD "", contact.field "email"⟩ contact :=
    ⟨hname, rfl, rfl⟩
  simp only [mem_all_iff]
  obtain rfl | hkey := List.mem_cons.mp hkey
  · exact ⟨_, .inl ⟨contact, hcontact, hdescribed _, rfl⟩, rfl, rfl⟩
  · exact ⟨_, .inr (.inl ⟨key, hkey, contact, hcontact, hdescribed _, rfl⟩), rfl, rfl⟩

/-- Two people for whom the same slot is are taken for the same: the slot of one is for the other
one. -/
theorem matchesSlot_of_matchesSlot_slot (h : c.matchesSlot slot = true)
    (hother : c.matchesSlot (c'.slot index) = true) :
  c'.matchesSlot slot = true
  := by
  rw [matchesSlot_iff] at h hother ⊢
  obtain ⟨hname, hphone⟩ := hother
  exact ⟨h.1.trans hname.symm, h.2.trans hphone.symm⟩

/-- Somebody is among those with a slot for a reference if the stored name and phone number of the
reference are theirs. -/
theorem listed_seed_iff {inputs : List ReferenceInput} :
  c.Listed (Reference.seed inputs)
    ↔ ∃ input ∈ inputs, equalIgnoringAsciiCase (trim input.name) c.name = true
        ∧ trim input.phone = c.phone
  := by
  have hslot (i : Nat) (input : ReferenceInput) : c.matchesSlot (Reference.pendingSlot i input) = true
      ↔ equalIgnoringAsciiCase (trim input.name) c.name = true ∧ trim input.phone = c.phone := by
    rw [matchesSlot, Bool.and_eq_true, beq_iff_eq]
    rfl
  constructor
  · rintro ⟨slot, hmem, hmatches⟩
    obtain ⟨i, hi⟩ := List.mem_iff_getElem?.mp hmem
    rw [Reference.seed, Reference.getElem?_seedFrom] at hi
    obtain ⟨input, hinput, rfl⟩ := Option.map_eq_some_iff.mp hi
    use input, List.mem_of_getElem? hinput
    exact (hslot _ input).mp hmatches
  · rintro ⟨input, hinput, hsame⟩
    obtain ⟨i, hi⟩ := List.mem_iff_getElem?.mp hinput
    use Reference.pendingSlot (0 + i) input
    use List.mem_of_getElem? (by rw [Reference.seed, Reference.getElem?_seedFrom, hi, Option.map_some])
    exact (hslot _ input).mpr hsame

end AnswerContact

namespace Reference

variable {c : AnswerContact} {slots : List Reference} {answers : Answers}

/-- The slots that a list grows by until a position has one. -/
def added (slots : List Reference) (index : Nat) (answers : Answers) : List Reference :=
  (ensureSlot slots index answers).drop slots.length

/-- No slot that is added is for somebody with a phone number who is listed already. -/
theorem matchesSlot_added (hlisted : c.Listed slots) (hphone : c.phone ≠ "") (index : Nat)
    (answers : Answers) :
  ∀ slot ∈ added slots index answers, c.matchesSlot slot = false
  := by
  obtain ⟨contacts, count, hbackfills, -⟩ := backfills_ensureSlot slots index answers
  obtain ⟨known, hknown, hmatches⟩ := hlisted
  intro slot hslot
  rw [added, hbackfills.eq, List.append_assoc, List.drop_left, List.mem_append] at hslot
  rw [← Bool.not_eq_true]
  intro hagain
  obtain hslot | hslot := hslot
  · obtain ⟨i, hi⟩ := List.mem_iff_getElem?.mp hslot
    rw [AnswerContact.getElem?_slotsFrom] at hi
    obtain ⟨newcomer, hnewcomer, rfl⟩ := Option.map_eq_some_iff.mp hi
    have hbefore : known ∈ (ensureSlot slots index answers).take (slots.length + i) := by
      rw [hbackfills.eq, List.append_assoc, List.take_length_add_append]
      apply List.mem_append_left _ hknown
    have hfresh := hbackfills.fresh i newcomer hnewcomer known hbefore
    rw [AnswerContact.matchesSlot_of_matchesSlot_slot hmatches hagain] at hfresh
    cases hfresh
  · obtain ⟨-, hsame⟩ := AnswerContact.matchesSlot_iff.mp hagain
    apply hphone
    rw [← hsame]
    obtain ⟨i, -, rfl⟩ := List.mem_map.mp hslot
    rfl

/-- Somebody who is named in the answers and has a phone number gets no slot, however long the list
grows, exactly if they are listed already. -/
theorem not_added_iff (hc : c ∈ AnswerContact.all answers) (hphone : c.phone ≠ "") :
  (∀ index, ∀ slot ∈ added slots index answers, c.matchesSlot slot = false) ↔ c.Listed slots
  := by
  constructor
  · intro hnone
    -- A list that has become so long has placeholders, and so everybody has a slot.
    let index := slots.length + (AnswerContact.all answers).length
    obtain ⟨contacts, count, hbackfills, hcount⟩ := backfills_ensureSlot slots index answers
    have hfew := hbackfills.inOrder.length_le
    obtain ⟨slot, hslot, hmatches⟩ := hbackfills.complete (by omega) c hc
    have hgrown : ensureSlot slots index answers = slots ++ added slots index answers := by
      rw [added, hbackfills.eq, List.append_assoc, List.drop_left]
    rw [hgrown] at hslot
    obtain hslot | hslot := List.mem_append.mp hslot
    · exact ⟨slot, hslot, hmatches⟩
    · rw [hnone index slot hslot] at hmatches
      cases hmatches
  · intro hlisted index
    apply matchesSlot_added hlisted hphone

end Reference

/-- Somebody whom a group of answers gives the name and the phone number of an accepted reference is
not added to the slots for the references, however long the list grows, if neither of the two has
white space at its ends; and in any case exactly if the trimmed name and the trimmed phone number
of one of the references are theirs. -/
theorem listed_references_not_added (inputs : List ReferenceInput) (answers : Answers)
    (maxReferences : Nat) (input : ReferenceInput) (key : String) (contact : Answer)
    (haccepted : ReferenceInput.listFaults maxReferences inputs = []) (hinput : input ∈ inputs)
    (hkey : key ∈ AnswerContact.groupKeys) (hcontact : Dictionary.get? key answers = some contact)
    (hname : contact.field "name" = some input.name)
    (hphone : contact.field "phone" = some input.phone) :
  (trim input.name = input.name → trim input.phone = input.phone →
    ∀ index, ∀ slot ∈ Reference.added (Reference.seed inputs) index answers,
      ¬(equalIgnoringAsciiCase slot.name input.name = true ∧ slot.phone = input.phone))
  ∧ ((∀ index, ∀ slot ∈ Reference.added (Reference.seed inputs) index answers,
      ¬(equalIgnoringAsciiCase slot.name input.name = true ∧ slot.phone = input.phone))
    ↔ ∃ other ∈ inputs, equalIgnoringAsciiCase (trim other.name) input.name = true
        ∧ trim other.phone = input.phone)
  := by
  obtain ⟨c, hc, hcname, hcphone⟩ := AnswerContact.exists_mem_all hkey hcontact hname
  rw [hphone, Option.getD_some] at hcphone
  have hreached : c.phone ≠ "" := by
    have hvalid := ((ReferenceInput.listFaults_eq_nil_iff.mp haccepted).2 input hinput).phone
    rw [hcphone]
    intro hempty
    rw [hempty] at hvalid
    cases hvalid
  have hslot (slot : Reference) : ¬(equalIgnoringAsciiCase slot.name input.name = true
      ∧ slot.phone = input.phone) ↔ c.matchesSlot slot = false := by
    rw [← Bool.not_eq_true, AnswerContact.matchesSlot, Bool.and_eq_true, beq_iff_eq, hcname, hcphone]
  simp only [hslot]
  rw [Reference.not_added_iff hc hreached, AnswerContact.listed_seed_iff, hcname, hcphone]
  refine ⟨?_, Iff.rfl⟩
  intro htrimmed htrimmed'
  exact ⟨input, hinput, equalIgnoringAsciiCase_trim_iff.mpr htrimmed, htrimmed'⟩

namespace Demo

/-- The landlord as a reference, under some name. -/
def landlord (name : String) : ReferenceInput :=
  ⟨none, name, "Landlord", "+1 555 201 4400", none⟩

/-- The landlord as a contact in the answers, under some name. -/
def landlordContact (name : String) : Answer :=
  .group [("name", .text name), ("phone", .text "+1 555 201 4400")]

/-- The landlord is typed with a blank behind the name both times, and is added to the slots that
they have already. -/
theorem landlord_listed_twice :
  let input := landlord "Sam Patel "
  let contact := landlordContact "Sam Patel "
  ReferenceInput.listFaults 5 [input] = []
  ∧ contact.field "name" = some input.name ∧ contact.field "phone" = some input.phone
  ∧ (Reference.added (Reference.seed [input]) 1 [("personal_reference", contact)]).map
        (fun slot => (slot.name, slot.phone)) = [(input.name, input.phone)]
  := by decide

end Demo

/-- The landlord is typed without the blank, and is not added. -/
theorem landlord_listed_once :
  let input := Demo.landlord "Sam Patel"
  let contact := Demo.landlordContact "Sam Patel"
  ReferenceInput.listFaults 5 [input] = []
  ∧ contact.field "name" = some input.name ∧ contact.field "phone" = some input.phone
  ∧ ∀ index, ∀ slot ∈ Reference.added (Reference.seed [input]) index [("personal_reference", contact)],
      ¬(equalIgnoringAsciiCase slot.name input.name = true ∧ slot.phone = input.phone)
  := by
  intro input contact
  have haccepted : ReferenceInput.listFaults 5 [input] = [] := by decide
  have hname : contact.field "name" = some input.name := by decide
  have hphone : contact.field "phone" = some input.phone := by decide
  have hnone := (listed_references_not_added [input] [("personal_reference", contact)] 5 input
    "personal_reference" contact haccepted List.mem_cons_self (by decide) rfl hname hphone).1
  exact ⟨haccepted, hname, hphone, hnone (by decide) (by decide)⟩

end Rehoming
