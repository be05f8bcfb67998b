import Rehoming.Demo.Cast
import Rehoming.Proofs.Reference.Backfill
import Rehoming.Proofs.Reference.Details
import Rehoming.Submission
/-!
# Contact edits

References that are given for a list of slots are laid over it, position by position: each slot
keeps its name and the outcome of its check, and gets the contact details of the reference at its
position; references behind the last slot get fresh ones.  The contact details are stored in a
form of their own, in which they are accepted like the references they come from, and giving
them once more changes nothing.
-/

namespace Rehoming

namespace ReferenceInput

variable {r : ReferenceInput} {rs : List ReferenceInput} {index maxReferences : Nat}

/-- That nothing is wrong with a reference. -/
structure Accepted (r : ReferenceInput) : Prop where
  name : Text.isBlank r.name = false
  relationship : Text.isBlank r.relationship = false
  phone : Contact.isPhone r.phone = true
  email : ∀ email, r.email = some email → Text.isBlank email = true ∨ Contact.isEmail email = true

theorem faults_eq_nil_iff :
  r.faults index = [] ↔ r.Accepted
  := by
  have hone : ∀ (b : Bool) (e : FieldError), (if b then [e] else []) = [] ↔ b = false := by simp
  have hone' : ∀ (b : Bool) (e : FieldError), (if b then [] else [e]) = [] ↔ b = true := by simp
  rw [faults, List.append_eq_nil_iff, List.append_eq_nil_iff, List.append_eq_nil_iff, hone, hone, hone']
  constructor
  · rintro ⟨⟨⟨hname, hrelationship⟩, hphone⟩, hemail⟩
    refine ⟨hname, hrelationship, hphone, ?_⟩
    intro email heq
    simpa [heq, or_iff_not_imp_left] using hemail
  · intro h
    refine ⟨⟨⟨h.name, h.relationship⟩, h.phone⟩, ?_⟩
    cases hemail : r.email with
    | none => rfl
    | some email => simpa [or_iff_not_imp_left] using h.email email hemail

theorem faultsFrom_eq_nil_iff :
  faultsFrom index rs = [] ↔ ∀ r ∈ rs, r.Accepted
  := by
  induction rs generalizing index with
  | nil => simp [faultsFrom]
  | cons r rest ih => simp [faultsFrom, faults_eq_nil_iff, ih]

/-- References are accepted if there are not too many of them and nothing is wrong with any. -/
theorem listFaults_eq_nil_iff :
  listFaults maxReferences rs = [] ↔ rs.length ≤ maxReferences ∧ ∀ r ∈ rs, r.Accepted
  := by
  simp [listFaults, faultsFrom_eq_nil_iff]

end ReferenceInput

namespace Reference

open Text

variable {index position i : Nat} {slot : Reference} {slots : List Reference}
  {input : ReferenceInput} {inputs : List ReferenceInput}

/-! ### Stored contact details -/

/-- The contact details of a slot, given as a reference once more. -/
def asInput (slot : Reference) : ReferenceInput :=
  ⟨some slot.id, slot.name, slot.relationship, slot.phone, slot.email⟩

/-- Mail addresses are stored trimmed and in lowercase, unless they are blank. -/
theorem email_pendingSlot (index : Nat) (input : ReferenceInput) :
  (pendingSlot index input).email = (nonBlank input.email).map lowercase
  := by
  have hempty : ∀ s, lowercase s = "" ↔ s = "" := by
    intro s
    rw [lowercase, lowercaseAfter_eq, ← String.toList_inj, String.toList_ofList, String.toList_empty,
      lowercaseBetween_eq_nil_iff, ← String.toList_inj, String.toList_empty]
  rw [pendingSlot]
  cases input.email with
  | none => rfl
  | some email =>
    simp only [Option.map_some, nonBlank, Option.filter_some, hempty, ne_eq, decide_not,
      Bool.not_eq_true', decide_eq_false_iff_not, ← isBlank_iff]
    by_cases hblank : isBlank email = true
    · simp [hblank]
    · simp [hblank]

/-- The stored mail address of an accepted reference is trimmed, in lowercase and accepted. -/
theorem email_stored (h : input.Accepted) {email : String}
    (hemail : (pendingSlot index input).email = some email) :
  nonBlank (some email) = some email ∧ lowercase email = email ∧ Contact.isEmail email = true
  := by
  rw [email_pendingSlot] at hemail
  obtain ⟨trimmed, htrimmed, rfl⟩ := Option.map_eq_some_iff.mp hemail
  cases hinput : input.email with
  | none =>
    rw [hinput] at htrimmed
    cases htrimmed
  | some raw =>
    rw [hinput, nonBlank] at htrimmed
    split at htrimmed
    next => cases htrimmed
    next hblank =>
      obtain rfl := Option.some.inj htrimmed
      have hraw : Contact.isEmail raw = true := (h.email raw hinput).resolve_left hblank
      obtain ⟨htrim, haccepted⟩ := Contact.isEmail_stored hraw
      have hfilled : isBlank (lowercase (trim raw)) = false := by
        rw [← Bool.not_eq_true, isBlank_iff, htrim]
        intro hempty
        rw [hempty] at haccepted
        cases haccepted
      refine ⟨?_, lowercase_lowercase _, haccepted⟩
      rw [nonBlank, if_neg (by simp [hfilled]), htrim]

/-- What is stored of an accepted reference is accepted. -/
theorem accepted_asInput (h : input.Accepted) (slot : Reference) (index : Nat) :
  (slot.withContact (pendingSlot index input)).asInput.Accepted
  := by
  constructor
  case name => exact (isBlank_trim input.name).trans h.name
  case relationship => exact (isBlank_trim input.relationship).trans h.relationship
  case phone => exact Contact.isPhone_trim h.phone
  case email =>
    intro email hemail
    have hstored : (pendingSlot index input).email = some email := hemail
    exact .inr (email_stored h hstored).2.2

/-- Storing once more what is stored of an accepted reference changes nothing. -/
theorem withContact_asInput (h : input.Accepted) (slot : Reference) (index position : Nat) :
  let written := slot.withContact (pendingSlot index input)
  written.withContact (pendingSlot position written.asInput) = written
  := by
  intro written
  have hemail : (pendingSlot position written.asInput).email = written.email := by
    rw [email_pendingSlot]
    cases hwritten : (pendingSlot index input).email with
    | none =>
      have hnone : written.email = none := hwritten
      rw [asInput, hnone]
      rfl
    | some email =>
      have hsome : written.email = some email := hwritten
      obtain ⟨hfilled, hlower, -⟩ := email_stored h hwritten
      rw [asInput, hsome, hfilled, Option.map_some, hlower]
  have hname : trim written.name = written.name := trim_trim input.name
  have hrelationship : trim written.relationship = written.relationship :=
    trim_trim input.relationship
  have hphone : trim written.phone = written.phone := trim_trim input.phone
  rw [withContact, hemail]
  simp only [pendingSlot, asInput, hname, hrelationship, hphone]

/-! ### Slots position by position -/

theorem getElem?_mergeContacts (slots : List Reference) (inputs : List ReferenceInput) (i : Nat) :
  (mergeContacts slots inputs)[i]?
    = (inputs[i]?.map fun input => overlay i input slots[i]?).or slots[i]?
  := by
  rw [mergeContacts, getElem?_mergeFrom, Nat.zero_add]

/-- Laying some references over slots that they have been laid over changes nothing if they have
nothing new for any slot. -/
theorem mergeContacts_eq_self
    (h : ∀ (i : Nat) (input : ReferenceInput), inputs[i]? = some input →
      ∃ slot, slots[i]? = some slot ∧ slot.withContact (pendingSlot i input) = slot) :
  mergeContacts slots inputs = slots
  := by
  apply List.ext_getElem?
  intro i
  rw [getElem?_mergeContacts]
  cases hinput : inputs[i]? with
  | none => rfl
  | some input =>
    obtain ⟨slot, hslot, hsame⟩ := h i input hinput
    rw [hslot, Option.map_some, overlay, Option.getD_some, hsame]
    rfl

/-- That a list of slots is another one with some references laid over it. -/
structure Overlays (slots : List Reference) (inputs : List ReferenceInput) (merged : List Reference) :
    Prop where
  length : merged.length = max slots.length inputs.length
  /-- Every slot keeps its name and the outcome of its check. -/
  kept : ∀ (i : Nat) (slot : Reference), slots[i]? = some slot → ∃ later, merged[i]? = some later
    ∧ later.id = slot.id ∧ later.status = slot.status ∧ later.notes = slot.notes
    ∧ later.contactedAt = slot.contactedAt
  /-- Slots behind the last reference stay as they are. -/
  untouched : ∀ i : Nat, inputs.length ≤ i → merged[i]? = slots[i]?
  /-- Nothing has happened yet to a slot behind the last one. -/
  fresh : ∀ (i : Nat) (slot : Reference), slots.length ≤ i → merged[i]? = some slot → slot.IsBlank i
  /-- Every reference is stored at its position. -/
  stored : ∀ (i : Nat) (input : ReferenceInput), inputs[i]? = some input →
    ∃ later, merged[i]? = some later
    ∧ later.name = trim input.name ∧ later.relationship = trim input.relationship
    ∧ later.phone = trim input.phone ∧ later.email = (nonBlank input.email).map lowercase

theorem overlays_mergeContacts (slots : List Reference) (inputs : List ReferenceInput) :
  Overlays slots inputs (mergeContacts slots inputs)
  := by
  constructor
  case length => apply length_mergeFrom
  case kept =>
    intro i slot hslot
    rw [getElem?_mergeContacts, hslot]
    cases inputs[i]? with
    | none => exact ⟨slot, rfl, rfl, rfl, rfl, rfl⟩
    | some input => exact ⟨_, rfl, rfl, rfl, rfl, rfl⟩
  case untouched =>
    intro i hi
    rw [getElem?_mergeContacts, List.getElem?_eq_none hi]
    rfl
  case fresh =>
    intro i slot hi hslot
    rw [getElem?_mergeContacts, List.getElem?_eq_none hi, Option.or_none, Option.map_eq_some_iff] at hslot
    obtain ⟨input, -, rfl⟩ := hslot
    exact ⟨rfl, rfl, rfl, rfl⟩
  case stored =>
    intro i input hinput
    refine ⟨overlay i input slots[i]?, ?_, rfl, rfl, rfl, email_pendingSlot i input⟩
    rw [getElem?_mergeContacts, hinput]
    rfl

theorem mergeContacts_mergeContacts (slots : List Reference) (inputs : List ReferenceInput) :
  mergeContacts (mergeContacts slots inputs) inputs = mergeContacts slots inputs
  := by
  apply mergeContacts_eq_self
  intro i input hinput
  refine ⟨overlay i input slots[i]?, ?_, rfl⟩
  rw [getElem?_mergeContacts, hinput]
  rfl

/-- The slots that some references are laid over, given as references once more. -/
def written (slots : List Reference) (inputs : List ReferenceInput) : List ReferenceInput :=
  ((mergeContacts slots inputs).take inputs.length).map asInput

theorem getElem?_written (slots : List Reference) (inputs : List ReferenceInput) (i : Nat) :
  (written slots inputs)[i]? = inputs[i]?.map fun input => (overlay i input slots[i]?).asInput
  := by
  rw [written, List.getElem?_map, List.getElem?_take, getElem?_mergeContacts]
  split
  next hi => simp [List.getElem?_eq_getElem hi]
  next hi => simp [List.getElem?_eq_none (Nat.le_of_not_lt hi)]

theorem length_written (slots : List Reference) (inputs : List ReferenceInput) :
  (written slots inputs).length = inputs.length
  := by
  rw [written, List.length_map, List.length_take, mergeContacts, length_mergeFrom]
  omega

/-- What accepted references leave in the slots is accepted, and changes nothing there. -/
theorem written_accepted {maxReferences : Nat}
    (h : ReferenceInput.listFaults maxReferences inputs = []) (slots : List Reference) :
  ReferenceInput.listFaults maxReferences (written slots inputs) = []
    ∧ mergeContacts (mergeContacts slots inputs) (written slots inputs) = mergeContacts slots inputs
  := by
  obtain ⟨hfew, haccepted⟩ := ReferenceInput.listFaults_eq_nil_iff.mp h
  constructor
  · rw [ReferenceInput.listFaults_eq_nil_iff, length_written]
    use hfew
    intro r hr
    obtain ⟨i, hi⟩ := List.mem_iff_getElem?.mp hr
    rw [getElem?_written] at hi
    obtain ⟨input, hinput, rfl⟩ := Option.map_eq_some_iff.mp hi
    apply accepted_asInput (haccepted input (List.mem_of_getElem? hinput))
  · apply mergeContacts_eq_self
    intro i r hr
    rw [getElem?_written] at hr
    obtain ⟨input, hinput, rfl⟩ := Option.map_eq_some_iff.mp hr
    refine ⟨overlay i input slots[i]?, ?_, ?_⟩
    · rw [getElem?_mergeContacts, hinput]
      rfl
    · apply withContact_asInput (haccepted input (List.mem_of_getElem? hinput))

/-! ### Edits -/

/-- References that are given for a list of slots change the contact details of the slots at their
positions and nothing else, and get fresh slots behind the last one; slots that are named after
their positions stay so.  Giving them twice is giving them once.  And if they are accepted, then
so are the contact details that they leave in the slots, and giving those changes nothing. -/
theorem contact_edits_stable (slots : List Reference) (inputs : List ReferenceInput)
    (maxReferences : Nat) :
  Overlays slots inputs (mergeContacts slots inputs)
  ∧ (Aligned 0 slots → Aligned 0 (mergeContacts slots inputs))
  ∧ mergeContacts (mergeContacts slots inputs) inputs = mergeContacts slots inputs
  ∧ (ReferenceInput.listFaults maxReferences inputs = [] →
      ReferenceInput.listFaults maxReferences (written slots inputs) = []
      ∧ mergeContacts (mergeContacts slots inputs) (written slots inputs)
        = mergeContacts slots inputs)
  := by
  refine ⟨overlays_mergeContacts slots inputs, ?_, mergeContacts_mergeContacts slots inputs, ?_⟩
  · intro haligned
    apply haligned.mergeFrom
  · intro haccepted
    apply written_accepted haccepted

end Reference

namespace Demo

/-- The slots for the references of the adopter, after a call to the first of them. -/
def calledSlots : List Reference :=
  (ReferenceUpdate.mk none (some 0) .verified (some "Speaks well of him") (some ⟨0⟩)).apply 0
    (Reference.seed references)

/-- The references of the adopter, typed anew, and one more. -/
def retyped : List ReferenceInput :=
  [⟨none, " Sam Patel", "Landlord ", " +1 (555) 201-4400 ", some " SAM@Lettings.Example "⟩,
   ⟨none, "Dr. Greene", "Veterinarian", "+1 555 201 9911", some "  "⟩,
   ⟨none, "Ana Rowe", "Sister", "15552015005", some "Ana@ROWE.example"⟩]

end Demo

/-- The landlord stays verified, and what is stored of the three references can be sent in as it
is. -/
theorem Reference.retyped_references_stable :
  let merged := mergeContacts Demo.calledSlots Demo.retyped
  let again := written Demo.calledSlots Demo.retyped
  Aligned 0 Demo.calledSlots ∧ ReferenceInput.listFaults 5 Demo.retyped = []
  ∧ merged.map (·.status) = [.verified, .pending, .pending]
  ∧ merged.map (·.email) = [some "sam@lettings.example", none, some "ana@rowe.example"]
  ∧ Aligned 0 merged ∧ ReferenceInput.listFaults 5 again = [] ∧ mergeContacts merged again = merged
  := by
  intro merged again
  have haligned : Aligned 0 Demo.calledSlots := (aligned_seedFrom 0 Demo.references).apply _ 0
  have haccepted : ReferenceInput.listFaults 5 Demo.retyped = [] := by decide
  obtain ⟨-, hmerged, -, hagain⟩ := contact_edits_stable Demo.calledSlots Demo.retyped 5
  exact ⟨haligned, haccepted, by decide, by decide, hmerged haligned,
    hagain haccepted⟩

end Rehoming
