import Mathlib.Algebra.Group.Nat.Defs
import Rehoming.Proofs.Reference.Slots
/-!
# Names of slots as codes of positions

The name of the slot at a position is the stem and the digits of the position, and what is read as
the name of a slot is the stem and any digits, leading zeros allowed, that write a word of 64 bits.
A report on a slot means the one that it names, else the one at the position it gives; a position
is never cut down to a word, so that what is out of range is what has been written.
-/

namespace Rehoming

namespace Reference

variable {id : String} {index : Nat}

/-- That a text names the slot at a position: behind the stem stand one or more digits, the decimal
value of which is the position, and the position is a word of 64 bits. -/
def Names (id : String) (index : Nat) : Prop :=
  ∃ digits, id.toList = "ref-".toList ++ digits ∧ digits ≠ [] ∧ (∀ c ∈ digits, c.isDigit = true)
    ∧ Nat.ofDigitChars 10 digits 0 = index ∧ index < 2 ^ 64

theorem slotIndex?_append_digits (digits : List Char) (h : id.toList = "ref-".toList ++ digits) :
  slotIndex? id = (Number.digits? digits).filter (· < Number.wordLimit 64)
  := by
  have hstem : idStem.toList.isPrefixOf id.toList = true := by
    rw [h, List.isPrefixOf_iff_prefix]
    apply List.prefix_append
  rw [slotIndex?, if_pos hstem, h]
  rfl

/-- The position that is read is the one that is named. -/
theorem slotIndex?_eq_some_iff :
  slotIndex? id = some index ↔ Names id index
  := by
  have hword : Number.wordLimit 64 = 2 ^ 64 := rfl
  constructor
  · intro h
    by_cases hstem : idStem.toList.isPrefixOf id.toList = true
    · obtain ⟨digits, hdigits⟩ := List.isPrefixOf_iff_prefix.mp hstem
      rw [slotIndex?_append_digits digits hdigits.symm, Option.filter_eq_some_iff,
        decide_eq_true_iff, hword, Number.digits?_eq_some_iff, List.all_eq_true] at h
      obtain ⟨⟨hsome, hall, hvalue⟩, hlimit⟩ := h
      exact ⟨digits, hdigits.symm, hsome, hall, hvalue, hlimit⟩
    · rw [slotIndex?, if_neg hstem] at h
      cases h
  · rintro ⟨digits, hdigits, hsome, hall, hvalue, hlimit⟩
    rw [slotIndex?_append_digits digits hdigits, Option.filter_eq_some_iff,
      decide_eq_true_iff, hword, Number.digits?_eq_some_iff, List.all_eq_true]
    exact ⟨⟨hsome, hall, hvalue⟩, hlimit⟩

end Reference

namespace ReferenceUpdate

open Reference (Names)

variable {u : ReferenceUpdate} {id field : String} {index maxSlots : Nat} {e : SlotError}
  {r : Except SlotError Nat}

/-- The slot that a report means, and the field that tells it: the slot that it names, and only if
it names none the one at the position it gives. -/
inductive Means (u : ReferenceUpdate) : String → Nat → Prop
  | byName {id : String} {index : Nat} (hid : u.referenceId = some id) (h : Names id index) :
      Means u "reference_id" index
  | byPosition {index : Nat} (hid : u.referenceId = none) (hindex : u.referenceIndex = some index) :
      Means u "reference_index" index

/-- What comes of looking for the slot that a report means, with a ceiling on the number of
slots. -/
inductive Resolves (u : ReferenceUpdate) (maxSlots : Nat) : Except SlotError Nat → Prop
  | found {field : String} {index : Nat} (h : u.Means field index) (hroom : index < maxSlots) :
      Resolves u maxSlots (.ok index)
  | outOfRange {field : String} {index : Nat} (h : u.Means field index) (hroom : maxSlots ≤ index) :
      Resolves u maxSlots (.error (.outOfRange field index maxSlots))
  | malformed {id : String} (hid : u.referenceId = some id) (h : ∀ index, ¬ Names id index) :
      Resolves u maxSlots (.error (.malformed id))
  | missing (hid : u.referenceId = none) (hindex : u.referenceIndex = none) :
      Resolves u maxSlots (.error .missing)

theorem indexOf_eq_ok_iff :
  indexOf id = .ok index ↔ Names id index
  := by
  rw [← Reference.slotIndex?_eq_some_iff, indexOf]
  cases Reference.slotIndex? id <;> simp

theorem indexOf_eq_error_iff :
  indexOf id = .error e ↔ (∀ index, ¬ Names id index) ∧ e = .malformed id
  := by
  simp only [← Reference.slotIndex?_eq_some_iff, indexOf]
  cases Reference.slotIndex? id with
  | none => simp [eq_comm]
  | some index => simp

/-- A slot that is meant is found, unless it is out of range. -/
theorem Means.resolves (h : u.Means field index) (maxSlots : Nat) :
  u.Resolves maxSlots (bounded maxSlots field index)
  := by
  rw [bounded]
  split
  next hroom => exact .found h hroom
  next hroom => exact .outOfRange h (Nat.le_of_not_lt hroom)

theorem Means.resolve_eq (h : u.Means field index) (maxSlots : Nat) :
  u.resolve maxSlots = bounded maxSlots field index
  := by
  cases h with
  | byName hid h => simp only [resolve, hid, indexOf_eq_ok_iff.mpr h]
  | byPosition hid hindex => simp only [resolve, hid, hindex]

theorem resolves_resolve (u : ReferenceUpdate) (maxSlots : Nat) :
  u.Resolves maxSlots (u.resolve maxSlots)
  := by
  cases hid : u.referenceId with
  | some id =>
    cases hname : indexOf id with
    | ok index =>
      have hmeans : u.Means "reference_id" index := .byName hid (indexOf_eq_ok_iff.mp hname)
      rw [hmeans.resolve_eq]
      apply hmeans.resolves
    | error e =>
      obtain ⟨hnone, rfl⟩ := indexOf_eq_error_iff.mp hname
      simp only [resolve, hid, hname]
      exact .malformed hid hnone
  | none =>
    cases hindex : u.referenceIndex with
    | some index =>
      have hmeans : u.Means "reference_index" index := .byPosition hid hindex
      rw [hmeans.resolve_eq]
      apply hmeans.resolves
    | none =>
      simp only [resolve, hid, hindex]
      exact .missing hid hindex

/-- Nothing else comes of it. -/
theorem Resolves.resolve_eq (h : u.Resolves maxSlots r) :
  u.resolve maxSlots = r
  := by
  cases h with
  | found h hroom => rw [h.resolve_eq, bounded, if_pos hroom]
  | outOfRange h hroom => rw [h.resolve_eq, bounded, if_neg (Nat.not_lt_of_le hroom)]
  | malformed hid h => simp only [resolve, hid, indexOf_eq_error_iff.mpr ⟨h, rfl⟩]
  | missing hid hindex => simp only [resolve, hid, hindex]

/-- The name of the slot at a position is read back as the position.  A text is read as a position
exactly if it names the slot there, and any other text is malformed.  What comes of looking for the
slot that a report means is told by its name, else by its position, as they are written: it is
found below the ceiling and out of range from there on. -/
theorem slot_names_codec :
  (∀ index, index < 2 ^ 64 → indexOf (Reference.slotId index) = .ok index)
  ∧ (∀ id index, indexOf id = .ok index ↔ Names id index)
  ∧ (∀ id e, indexOf id = .error e ↔ (∀ index, ¬ Names id index) ∧ e = .malformed id)
  ∧ ∀ (u : ReferenceUpdate) (maxSlots : Nat) (r : Except SlotError Nat),
      u.resolve maxSlots = r ↔ u.Resolves maxSlots r
  := by
  refine ⟨?_, fun _ _ => indexOf_eq_ok_iff, fun _ _ => indexOf_eq_error_iff, ?_⟩
  · intro index hword
    rw [indexOf_eq_ok_iff, ← Reference.slotIndex?_eq_some_iff]
    exact Reference.slotIndex?_slotId hword
  · intro u maxSlots r
    constructor
    · rintro rfl
      apply resolves_resolve
    · exact Resolves.resolve_eq

/-- The last position of 64 bits has a name, and with the next one in its place the text is
malformed. -/
theorem last_slot_named :
  18446744073709551615 < 2 ^ 64
  ∧ indexOf (Reference.slotId 18446744073709551615) = .ok 18446744073709551615
  ∧ Reference.slotId 18446744073709551615 = "ref-18446744073709551615"
  ∧ indexOf "ref-18446744073709551616" = .error (.malformed "ref-18446744073709551616")
  := by
  obtain ⟨hback, -⟩ := slot_names_codec
  exact ⟨by decide, hback _ (by decide), by decide, by decide⟩

end ReferenceUpdate

end Rehoming
