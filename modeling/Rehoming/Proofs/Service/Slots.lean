import Rehoming.Proofs.Reference.Slots
import Rehoming.Proofs.Service.Writing
/-!
# How lists of references grow

A submission makes between one slot and as many as there may be references.  An amendment never
shortens the list; an edit makes it no longer than there may be references, and a report on a
slot no longer than there may be slots, unless it is longer already.
-/

namespace Rehoming

/-- That some slots may have become others where there may be `limit` of them: slots are only
added, each named after its position, and not more than there may be. -/
structure Reference.Grown (limit : Nat) (slots later : List Reference) : Prop where
  aligned : Aligned 0 slots → Aligned 0 later
  longer : slots.length ≤ later.length
  bounded : later.length ≤ max slots.length limit

namespace Reference

variable {limit : Nat} {slots : List Reference}

theorem Grown.refl (limit : Nat) (slots : List Reference) :
  Grown limit slots slots
  := ⟨fun h => h, Nat.le_refl _, Nat.le_max_left ..⟩

theorem grown_mergeContacts {inputs : List ReferenceInput} (h : inputs.length ≤ limit) :
  Grown limit slots (mergeContacts slots inputs)
  := by
  constructor
  case aligned =>
    intro haligned
    apply haligned.mergeFrom
  case longer =>
    rw [mergeContacts, length_mergeFrom]
    apply Nat.le_max_left
  case bounded =>
    rw [mergeContacts, length_mergeFrom]
    omega

/-- A report on a slot makes the list so long that it has the slot. -/
theorem grown_apply_ensureSlot {index : Nat} (h : index < limit) (u : ReferenceUpdate)
    (answers : Answers) :
  Grown limit slots (u.apply index (ensureSlot slots index answers))
  := by
  constructor
  case aligned =>
    intro haligned
    apply (haligned.ensureSlot index answers).apply
  case longer =>
    rw [u.length_apply, length_ensureSlot]
    apply Nat.le_max_left
  case bounded =>
    rw [u.length_apply, length_ensureSlot]
    omega

end Reference

/-! ### Checks -/

/-- A list of references without a fault has one at least, and no more than there may be. -/
theorem ReferenceInput.length_of_faults {maxReferences : Nat} {rs : List ReferenceInput}
    (h : absenceFaults rs ++ listFaults maxReferences rs = []) :
  0 < rs.length ∧ rs.length ≤ maxReferences
  := by
  obtain ⟨habsence, hlist⟩ := List.append_eq_nil_iff.mp h
  obtain ⟨hmany, -⟩ := List.append_eq_nil_iff.mp hlist
  constructor
  · rw [absenceFaults] at habsence
    split at habsence
    case isTrue => cases habsence
    next hsome =>
      apply List.length_pos_iff.mpr
      simpa using hsome
  · split at hmany
    case isTrue => cases hmany
    next hfew => omega

/-! ### Records -/

section

variable {E : World → Prop} {policy : Policy} {actor : Actor} {now : Time.Instant}
  {a before draft : Application}

/-- A submission makes a slot for each of its references. -/
theorem Submits.slots (h : Submits E policy actor now a) :
  Reference.Aligned 0 a.references
    ∧ 0 < a.references.length ∧ a.references.length ≤ policy.maxReferences
  := by
  cases h with
  | submit s name pet hfaults hpet available hchecked =>
    rw [Submission.faults, List.append_assoc] at hfaults
    obtain ⟨-, hreferences⟩ := List.append_eq_nil_iff.mp hfaults
    use Reference.aligned_seedFrom 0 s.references
    have hlength : (s.application ⟨name⟩ actor.userId pet.petId pet.rescueId now
        policy.ttlDays).references.length = s.references.length :=
      Reference.length_seedFrom 0 s.references
    rw [hlength]
    apply ReferenceInput.length_of_faults hreferences

/-- No amendment shortens the list of references, and only an edit and a report on a slot make
it longer. -/
theorem Amends.grown (h : Amends E policy actor now before draft)
    (hroom : policy.maxReferences ≤ policy.maxReferenceSlots) :
  Reference.Grown policy.maxReferenceSlots before.references draft.references
  := by
  cases h with
  | edit e hfaults may submitted hchecked =>
    rw [Edit.applyTo]
    cases hreferences : e.references with
    | none => apply Reference.Grown.refl
    | some inputs =>
      rw [Edit.faults, hreferences] at hfaults
      obtain ⟨-, hinputs⟩ := List.append_eq_nil_iff.mp hfaults
      obtain ⟨-, hfew⟩ := ReferenceInput.length_of_faults hinputs
      apply Reference.grown_mergeContacts (Nat.le_trans hfew hroom)
  | check u index hindex may =>
    apply Reference.grown_apply_ensureSlot (ReferenceUpdate.index_lt_of_resolve hindex)
  | attach | delete => apply Reference.Grown.refl
  | decide d draft move may h =>
    obtain ⟨-, -, rfl⟩ := Decision.applyTo_eq_ok h
    apply Reference.Grown.refl
  | withdraw w draft move may h =>
    obtain ⟨-, rfl⟩ := Withdrawal.applyTo_eq_ok h
    apply Reference.Grown.refl
  | chooseStage c =>
    rw [c.applyTo_eq]
    apply Reference.Grown.refl
  | patch p draft move may h =>
    obtain ⟨-, rfl⟩ | ⟨target, -, -, -, rfl⟩ := Patch.applyTo_eq_ok h
    · apply Reference.Grown.refl
    · apply Reference.Grown.refl

end

/-! ### What only owners write -/

/-- The policy under which there may be no more slots than references. -/
def Policy.narrowed (p : Policy) : Policy :=
  { p with maxReferenceSlots := p.maxReferences }

/-- Whether a request is a submission or an edit. -/
def Request.FillsIn : Request → Prop
  | .mutation (.submit ..) | .mutation (.edit ..) => True
  | _ => False

theorem Service.attempt_narrowed {α : Type} (policy : Policy) (id : ApplicationId)
    (change : Change α) (late : Nat → Nat → Service (Committed α)) :
  attempt policy.narrowed id change late = attempt policy id change late
  := by
  refine bind_congr fun _ => bind_congr fun _ => bind_congr fun before => bind_congr fun now => ?_
  apply bind_congr
  rintro ⟨draft, outcome⟩
  apply bind_congr (m := Service)
  -- What is done with the answer mentions the policy in its type, which matters no more once
  -- the answer is known.
  rintro (e | after)
  · cases e with
    | _ => rfl
  · rfl

/-- A commit does not depend on how many slots there may be. -/
theorem Service.commit_narrowed {α : Type} (policy : Policy) (id : ApplicationId)
    (change : Change α) (retries : Nat) :
  commit policy.narrowed id change retries = commit policy id change retries
  := by
  induction retries with
  | zero => apply attempt_narrowed
  | succ left ih =>
    rw [commit, commit, ih]
    apply attempt_narrowed

/-- A submission and an edit do not depend on how many slots there may be. -/
theorem Request.service_narrowed {r : Request} (h : r.FillsIn) (policy : Policy) :
  r.service policy.narrowed = r.service policy
  := by
  cases r with
  | mutation m =>
    cases m with
    | submit => rfl
    | edit id e actor =>
      change Service.edit policy.narrowed id e actor = Service.edit policy id e actor
      rw [Service.edit, Service.edit, Service.commit_narrowed]
      rfl
    | _ => cases h
  | _ => cases h

end Rehoming
