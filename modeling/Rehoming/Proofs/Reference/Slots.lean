import Rehoming.Proofs.Number.Natural
import Rehoming.Reference.Backfill
import Rehoming.Reference.Update
/-!
# Slots are named after their positions

Slots are made in four places: for the references of a submission, for those that an edit adds,
for the people named in the answers, and as placeholders.  Wherever a list of slots is made or
grows, each slot is named after its position; and the name leads back to the position.
-/

namespace Rehoming

namespace Reference

variable {start index size i : Nat} {slot : Reference} {slots more : List Reference}
  {inputs : List ReferenceInput} {contacts : List AnswerContact} {answers : Answers}

/-! ### Names -/

/-- The name of the slot at a position leads back to the position. -/
theorem slotIndex?_slotId (h : index < Number.wordLimit 64) :
  slotIndex? (slotId index) = some index
  := by
  have hchars : (slotId index).toList = idStem.toList ++ Nat.toDigits 10 index := by
    rw [slotId, String.toList_append, Nat.toString_eq_ofList_toDigits, String.toList_ofList]
  have hstem : idStem.toList.isPrefixOf (slotId index).toList = true := by
    rw [hchars]
    simp
  rw [slotIndex?, if_pos hstem, hchars, String.length, List.drop_left, Number.digits?_toDigits]
  simp [h]

/-- The names of some slots in a row. -/
def slotIds (start count : Nat) : List String :=
  (List.range' start count).map slotId

/-- That some slots in a row are named after their positions, the first of which is `start`. -/
def Aligned (start : Nat) (slots : List Reference) : Prop :=
  slots.map (·.id) = slotIds start slots.length

theorem aligned_nil :
  Aligned start []
  := rfl

theorem aligned_cons :
  Aligned start (slot :: slots) ↔ slot.id = slotId start ∧ Aligned (start + 1) slots
  := by
  simp [Aligned, slotIds, List.range'_succ]

theorem aligned_append :
  Aligned start (slots ++ more) ↔ Aligned start slots ∧ Aligned (start + slots.length) more
  := by
  induction slots generalizing start with
  | nil => simp [aligned_nil]
  | cons first rest ih =>
    rw [List.cons_append, aligned_cons, aligned_cons, ih, List.length_cons, and_assoc,
      Nat.add_right_comm, Nat.add_assoc]

/-- The name of an aligned slot. -/
theorem Aligned.id_eq (h : Aligned start slots) (hslot : slots[i]? = some slot) :
  slot.id = slotId (start + i)
  := by
  obtain ⟨hi, -⟩ := List.getElem?_eq_some_iff.mp hslot
  have hid : (slots.map (·.id))[i]? = some slot.id := by simp [hslot]
  rw [h, slotIds, List.getElem?_map, List.getElem?_range' hi, Nat.one_mul] at hid
  exact (Option.some.inj hid).symm

/-- Of two aligned lists the shorter one has the names that the longer one begins with. -/
theorem Aligned.ids_prefix (h : Aligned start slots) (h' : Aligned start more)
    (hlength : slots.length ≤ more.length) :
  slots.map (·.id) <+: more.map (·.id)
  := by
  obtain ⟨added, hadded⟩ := Nat.exists_eq_add_of_le hlength
  rw [h, h', slotIds, slotIds, hadded, ← List.range'_append_1, List.map_append]
  apply List.prefix_append

/-! ### Slots for references -/

@[simp]
theorem length_seedFrom (index : Nat) (inputs : List ReferenceInput) :
  (seedFrom index inputs).length = inputs.length
  := by
  induction inputs generalizing index with
  | nil => rfl
  | cons input rest ih => rw [seedFrom, List.length_cons, ih, List.length_cons]

theorem aligned_seedFrom (index : Nat) (inputs : List ReferenceInput) :
  Aligned index (seedFrom index inputs)
  := by
  induction inputs generalizing index with
  | nil => apply aligned_nil
  | cons input rest ih =>
    apply aligned_cons.mpr
    exact ⟨rfl, ih (index + 1)⟩

/-- Every reference that is given gets the slot at its position. -/
theorem getElem?_seedFrom (index : Nat) (inputs : List ReferenceInput) (i : Nat) :
  (seedFrom index inputs)[i]? = inputs[i]?.map (pendingSlot (index + i))
  := by
  induction inputs generalizing index i with
  | nil => simp [seedFrom]
  | cons input rest ih =>
    cases i with
    | zero => simp [seedFrom]
    | succ i => simp [seedFrom, ih, Nat.add_right_comm, Nat.add_assoc]

/-- The slot that a reference meets, with its contact details: the one at its position, or else a
fresh one. -/
def overlay (position : Nat) (input : ReferenceInput) (slot : Option Reference) : Reference :=
  (slot.getD (pendingSlot position input)).withContact (pendingSlot position input)

/-- Only the slots for which references are given change. -/
theorem getElem?_mergeFrom (index : Nat) (slots : List Reference) (inputs : List ReferenceInput)
    (i : Nat) :
  (mergeFrom index slots inputs)[i]?
    = (inputs[i]?.map fun input => overlay (index + i) input slots[i]?).or slots[i]?
  := by
  induction index, slots, inputs using mergeFrom.induct generalizing i with
  | case1 index slots => simp [mergeFrom]
  | case2 index inputs hinputs =>
    rw [mergeFrom, getElem?_seedFrom]
    · simp [overlay, withContact]
    · exact hinputs
  | case3 index slot slots input inputs ih =>
    rw [mergeFrom]
    cases i with
    | zero => rfl
    | succ i => simp [ih, Nat.add_right_comm, Nat.add_assoc]

theorem length_mergeFrom (index : Nat) (slots : List Reference) (inputs : List ReferenceInput) :
  (mergeFrom index slots inputs).length = max slots.length inputs.length
  := by
  induction index, slots, inputs using mergeFrom.induct with
  | case1 index slots => simp [mergeFrom]
  | case2 index inputs hinputs => simp [mergeFrom]
  | case3 index slot slots input inputs ih =>
    rw [mergeFrom, List.length_cons, ih, List.length_cons, List.length_cons, Nat.succ_max_succ]

theorem Aligned.mergeFrom (h : Aligned index slots) (inputs : List ReferenceInput) :
  Aligned index (Reference.mergeFrom index slots inputs)
  := by
  induction index, slots, inputs using Reference.mergeFrom.induct with
  | case1 index slots =>
    rw [Reference.mergeFrom]
    apply h
  | case2 index inputs hinputs =>
    rw [Reference.mergeFrom]
    · apply aligned_seedFrom
    · apply hinputs
  | case3 index slot slots input inputs ih =>
    obtain ⟨hid, hrest⟩ := aligned_cons.mp h
    rw [Reference.mergeFrom]
    apply aligned_cons.mpr
    exact ⟨hid, ih hrest⟩

/-! ### Slots that are filled in -/

theorem aligned_placeholders (start count : Nat) :
  Aligned start (placeholders start count)
  := by
  simp [Aligned, slotIds, placeholders, placeholder, List.range'_eq_map_range, Function.comp_def]

@[simp]
theorem length_placeholders (start count : Nat) :
  (placeholders start count).length = count
  := by
  simp [placeholders]

/-- People are added up to the size asked for. -/
theorem length_addContacts_le (size : Nat) (slots : List Reference)
    (contacts : List AnswerContact) :
  (addContacts size slots contacts).length ≤ max slots.length size
  := by
  induction contacts generalizing slots with
  | nil => apply Nat.le_max_left
  | cons c rest ih =>
    rw [addContacts]
    split
    next => apply Nat.le_max_left
    next hroom =>
      split
      · apply ih
      · apply Nat.le_trans (ih _)
        simp only [List.length_append, List.length_singleton]
        omega

theorem Aligned.addContacts (h : Aligned 0 slots) (size : Nat) (contacts : List AnswerContact) :
  Aligned 0 (Reference.addContacts size slots contacts)
  := by
  induction contacts generalizing slots with
  | nil => apply h
  | cons c rest ih =>
    rw [Reference.addContacts]
    split
    · apply h
    · split
      · apply ih h
      · apply ih
        apply aligned_append.mpr
        use h
        apply aligned_cons.mpr
        exact ⟨by simp [AnswerContact.slot], aligned_nil⟩

/-- A list grows just until it has the slot that is meant. -/
theorem length_ensureSlot (slots : List Reference) (index : Nat) (answers : Answers) :
  (ensureSlot slots index answers).length = max slots.length (index + 1)
  := by
  rw [ensureSlot]
  split
  next hlisted => omega
  next hmissing =>
    have hadded := length_addContacts_le (index + 1) slots (AnswerContact.all answers)
    rw [List.length_append, length_placeholders]
    omega

theorem Aligned.ensureSlot (h : Aligned 0 slots) (index : Nat) (answers : Answers) :
  Aligned 0 (Reference.ensureSlot slots index answers)
  := by
  rw [Reference.ensureSlot]
  split
  · apply h
  · apply aligned_append.mpr
    use h.addContacts (index + 1) (AnswerContact.all answers)
    rw [Nat.zero_add]
    apply aligned_placeholders

/-- A list that has a slot stays as it is when the slot is asked for. -/
theorem ensureSlot_eq_self (h : index < slots.length) (answers : Answers) :
  ensureSlot slots index answers = slots
  := if_pos h

end Reference

namespace ReferenceUpdate

variable {u : ReferenceUpdate} {index maxSlots i : Nat} {slot : Reference} {slots : List Reference}

@[simp]
theorem length_apply (u : ReferenceUpdate) (index : Nat) (slots : List Reference) :
  (u.apply index slots).length = slots.length
  := List.length_modify ..

/-- What the outcome of a check leaves as it is on the slot it leaves as it is in the list. -/
theorem map_apply {β : Type} {f : Reference → β} (hf : ∀ slot, f (u.applyTo slot) = f slot)
    (index : Nat) (slots : List Reference) :
  (u.apply index slots).map f = slots.map f
  := by
  apply List.ext_getElem?
  intro i
  rw [List.getElem?_map, List.getElem?_map, apply, List.getElem?_modify]
  cases slots[i]? with
  | none => rfl
  | some slot => by_cases hi : index = i <;> simp [hi, hf]

/-- The outcome of a check does not change the name of the slot. -/
theorem ids_apply (u : ReferenceUpdate) (index : Nat) (slots : List Reference) :
  (u.apply index slots).map (·.id) = slots.map (·.id)
  := u.map_apply (fun _ => rfl) index slots

/-- What is reported on a slot that is listed changes that slot. -/
theorem apply_eq_set (u : ReferenceUpdate) (h : slots[index]? = some slot) :
  u.apply index slots = slots.set index (u.applyTo slot)
  := by
  obtain ⟨hindex, rfl⟩ := List.getElem?_eq_some_iff.mp h
  rw [apply, List.modify_eq_take_cons_drop hindex, List.set_eq_take_append_cons_drop, if_pos hindex]

theorem index_lt_of_resolve (h : u.resolve maxSlots = .ok index) :
  index < maxSlots
  := by
  have hbounded : ∀ field i, bounded maxSlots field i = .ok index → index < maxSlots := by
    intro field i hi
    rw [bounded] at hi
    split at hi
    next hroom =>
      obtain rfl := Except.ok.inj hi
      exact hroom
    next => cases hi
  rw [resolve] at h
  split at h
  · split at h
    · apply hbounded _ _ h
    · cases h
  · apply hbounded _ _ h
  · cases h

/-- The name of a slot leads to the slot. -/
theorem resolve_slotId (hid : u.referenceId = some (Reference.slotId index))
    (hword : index < Number.wordLimit 64) (hroom : index < maxSlots) :
  u.resolve maxSlots = .ok index
  := by
  simp only [resolve, hid, indexOf, Reference.slotIndex?_slotId hword, bounded, if_pos hroom]

end ReferenceUpdate

/-- An aligned list stays aligned when something is reported on a slot. -/
theorem Reference.Aligned.apply {slots : List Reference} (h : Aligned 0 slots)
    (u : ReferenceUpdate) (index : Nat) :
  Aligned 0 (u.apply index slots)
  := by
  rw [Aligned, u.ids_apply, u.length_apply, h]

end Rehoming
