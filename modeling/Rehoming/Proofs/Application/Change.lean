import Rehoming.Batch
import Rehoming.Decision
import Rehoming.Edit
import Mathlib.Tactic.Use
/-!
# Changes of a record, field by field

The changes of the life cycle as updates of the fields they touch.  A change of status
happens to a submitted application only, and a decision, a withdrawal and a patch with a
status leave the stage where the new status settles it.
-/

namespace Rehoming

namespace Status

/-- Only a submitted application changes its status, and for a final one. -/
theorem canBecome_iff {s target : Status} :
  s.canBecome target = true ↔ s = .submitted ∧ target ≠ .submitted
  := by
  cases s <;> cases target <;> decide

@[simp]
theorem isFinal_iff {s : Status} :
  s.isFinal = true ↔ s ≠ .submitted
  := by
  simp [isFinal]

end Status

namespace Application

variable {a b : Application} {target : Status} {actor : UserId} {now : Time.Instant}

/-- The notes with an addition, if one is given and it is not blank. -/
def notesWith (notes addition : Option String) : Option String :=
  match Text.nonBlank addition with
  | none => notes
  | some addition => some (joinNotes notes addition)

theorem appendIfAny_eq (addition : Option String) :
  a.appendIfAny addition = { a with notes := notesWith a.notes addition }
  := by
  rw [appendIfAny, notesWith]
  cases Text.nonBlank addition with
  | none => rfl
  | some addition => rfl

theorem settleStage_eq :
  a.settleStage = { a with stage := (Stage.settledBy a.status).getD a.stage }
  := by
  rw [settleStage, stageMove]
  cases Stage.settledBy a.status with
  | none => rfl
  | some target =>
    by_cases h : a.stage = target
    · subst h
      simp
    · simp only [if_neg h, Option.getD_some]

/-! ### Stamps -/

section Stamp

variable {ttlDays : Nat}

theorem stamp_decisionAt_of_submitted (hstatus : a.status = .submitted)
    (h : a.decisionAt = none) :
  (a.stamp now ttlDays).decisionAt = none
  := by
  simp [stamp, h, hstatus]

theorem stamp_decisionAt_of_some {t : Time.Instant} (h : a.decisionAt = some t) :
  (a.stamp now ttlDays).decisionAt = some t
  := by
  simp [stamp, h]

theorem stamp_decisionAt_of_none (hstatus : a.status ≠ .submitted) (h : a.decisionAt = none) :
  (a.stamp now ttlDays).decisionAt = some now
  := by
  simp [stamp, h, hstatus]

theorem stamp_submittedAt_of_some {t : Time.Instant} (h : a.submittedAt = some t) :
  (a.stamp now ttlDays).submittedAt = some t
  := by
  simp [stamp, h]

theorem stamp_expiresAt_eq {later : Option Time.Instant} (h : a.expiresAt = later)
    (hor : a.expiresAt.or (now.addDays? ttlDays) = later) :
  (a.stamp now ttlDays).expiresAt = later
  := by
  rw [h] at hor
  simp only [stamp, h, hor, ite_self]

end Stamp

/-! ### Changes of status -/

theorem transition_eq_ok_iff :
  a.transition target actor now = .ok b
    ↔ a.status = .submitted ∧ target ≠ .submitted
      ∧ b = { a with
          status := target
          actionedBy := some actor
          actionedAt := some now
          decisionAt := if target = .approved ∨ target = .rejected then some now else a.decisionAt }
  := by
  rw [transition, ← and_assoc, ← Status.canBecome_iff]
  split
  next h => simp [h, eq_comm]
  next h => simp [h]

end Application

/-! ### Edits -/

private theorem getD_eq_of_any {α : Type} [BEq α] [LawfulBEq α] {given : Option α} {a : α}
    (h : given.any (· != a) = false) :
  given.getD a = a
  := by
  cases given with
  | none => rfl
  | some b => simpa using h

/-- An edit that changes no field leaves the application as it is. -/
theorem Edit.applyTo_eq_self {e : Edit} {a : Application} (h : e.changes a = []) :
  e.applyTo a = a
  := by
  simp only [changes, List.append_eq_nil_iff, ite_eq_right_iff, reduceCtorEq, imp_false,
    Bool.not_eq_true, Option.isSome_eq_false_iff, Option.isNone_iff_eq_none] at h
  obtain ⟨⟨⟨⟨⟨⟨⟨hanswers, hreferences⟩, hpriority⟩, hnotes⟩, htags⟩, hinterview⟩, hvisit⟩, hscore⟩ := h
  have hanswers' : (e.applyTo a).answers = a.answers := by
    rw [applyTo]
    cases hgiven : e.answers with
    | none => rfl
    | some answers =>
      have hsame : Answer.sameMembers a.answers answers = true := by simpa [hgiven] using hanswers
      simp [hsame]
  have hreferences' : (e.applyTo a).references = a.references := by
    rw [applyTo]
    cases hgiven : e.references with
    | none => rfl
    | some inputs => simpa [hgiven] using hreferences
  have hpriority' : (e.applyTo a).priority = a.priority := getD_eq_of_any hpriority
  have htags' : (e.applyTo a).tags = a.tags := getD_eq_of_any htags
  have hfields : e.applyTo a = { a with
      answers := (e.applyTo a).answers, references := (e.applyTo a).references
      priority := (e.applyTo a).priority, tags := (e.applyTo a).tags } := by
    rw [applyTo, hnotes, hinterview, hvisit, hscore]
    rfl
  rw [hfields, hanswers', hreferences', hpriority', htags']

/-! ### Decisions, withdrawals and patches -/

open Application

variable {a draft : Application} {actor : UserId} {now : Time.Instant} {move : Option StageMove}

private theorem map_eq_ok {ε α β : Type} {x : Except ε α} {f : α → β} {b : β}
    (h : x.map f = .ok b) :
  ∃ a, x = .ok a ∧ f a = b
  := by
  cases x with
  | error e => cases h
  | ok a => exact ⟨a, rfl, Except.ok.inj h⟩

/-- What a decision makes of a record. -/
theorem Decision.applyTo_eq_ok {d : Decision} (h : d.applyTo a actor now = .ok (draft, move)) :
  a.status = .submitted ∧ d.status ≠ .submitted
    ∧ draft = { a with
        status := d.status
        stage := (Stage.settledBy d.status).getD a.stage
        actionedBy := some actor
        actionedAt := some now
        decisionAt := if d.status = .approved ∨ d.status = .rejected then some now else a.decisionAt
        rejectionReason := if d.status = .rejected then
          (Text.nonBlank d.rejectionReason).or a.rejectionReason else a.rejectionReason
        notes := notesWith a.notes d.notes
        followUpDate := d.followUpDate.or a.followUpDate }
  := by
  obtain ⟨moved, hmoved, hdraft⟩ := map_eq_ok h
  obtain ⟨submitted, final, rfl⟩ := transition_eq_ok_iff.mp hmoved
  obtain ⟨rfl, -⟩ := Prod.mk.inj hdraft
  use submitted, final
  by_cases hr : d.status = .rejected
  · simp [record, appendIfAny_eq, settleStage_eq, hr]
  · simp [record, appendIfAny_eq, settleStage_eq, hr]

/-- What a withdrawal makes of a record. -/
theorem Withdrawal.applyTo_eq_ok {w : Withdrawal}
    (h : w.applyTo a actor now = .ok (draft, move)) :
  a.status = .submitted
    ∧ draft = { a with
        status := .withdrawn
        stage := .withdrawn
        actionedBy := some actor
        actionedAt := some now
        notes := w.note.elim a.notes fun note => some (joinNotes a.notes note) }
  := by
  obtain ⟨moved, hmoved, hdraft⟩ := map_eq_ok h
  obtain ⟨submitted, -, rfl⟩ := transition_eq_ok_iff.mp hmoved
  obtain ⟨rfl, -⟩ := Prod.mk.inj hdraft
  use submitted
  cases w.note with
  | none => simp [settleStage_eq, Stage.settledBy]
  | some note => simp [settleStage_eq, Stage.settledBy, appendNotes]

/-- What a patch makes of a record: without a status nothing but its labels change. -/
theorem Patch.applyTo_eq_ok {p : Patch} (h : p.applyTo a actor now = .ok (draft, move)) :
  (p.status = none
    ∧ draft = { a with
        priority := p.priority.getD a.priority
        tags := p.tags.getD a.tags
        notes := notesWith a.notes p.notes })
  ∨ ∃ target, p.status = some target ∧ a.status = .submitted ∧ target ≠ .submitted
    ∧ draft = { a with
        status := target
        stage := (Stage.settledBy target).getD a.stage
        actionedBy := some actor
        actionedAt := some now
        decisionAt := if target = .approved ∨ target = .rejected then some now else a.decisionAt
        priority := p.priority.getD a.priority
        tags := p.tags.getD a.tags
        notes := notesWith a.notes p.notes }
  := by
  rw [applyTo] at h
  cases hstatus : p.status with
  | none =>
    left
    rw [hstatus] at h
    obtain ⟨rfl, -⟩ := Prod.mk.inj (Except.ok.inj h)
    use rfl
    apply appendIfAny_eq
  | some target =>
    right
    rw [hstatus] at h
    obtain ⟨moved, hmoved, hdraft⟩ := map_eq_ok h
    obtain ⟨submitted, final, rfl⟩ := transition_eq_ok_iff.mp hmoved
    obtain ⟨rfl, -⟩ := Prod.mk.inj hdraft
    use target, rfl, submitted, final
    simp [label, appendIfAny_eq, settleStage_eq]

/-- What the choice of a stage makes of a record. -/
theorem StageChoice.applyTo_eq (c : StageChoice) :
  c.applyTo a = { a with stage := c.stage, notes := notesWith a.notes c.notes }
  := by
  apply appendIfAny_eq

/-! ### Moves of the stage -/

namespace Application

/-- A status that settles the stage moves it unless it is there already. -/
theorem stageMove_eq (a : Application) :
  a.stageMove = if a.settleStage.stage = a.stage then none else some ⟨a.stage, a.settleStage.stage⟩
  := by
  rw [settleStage, stageMove]
  cases Stage.settledBy a.status with
  | none => simp
  | some target =>
    by_cases h : a.stage = target
    · simp [h]
    · simp [h, Ne.symm h]

/-- That a change gives a submitted record a final status, with the stage that it settles and
the move that this is. -/
structure Settles (a draft : Application) (move : Option StageMove) : Prop where
  waiting : a.status = .submitted
  final : draft.status ≠ .submitted
  stage : draft.stage.isSettled = true
  move : move = if draft.stage = a.stage then none else some ⟨a.stage, draft.stage⟩
  documents : draft.documents = a.documents

/-- A final status settles the stage. -/
theorem isSettled_settledBy (h : target ≠ .submitted) (stage : Stage) :
  ((Stage.settledBy target).getD stage).isSettled = true
  := by
  cases target with
  | submitted => cases h rfl
  | approved | rejected | withdrawn => rfl

end Application

theorem Decision.settles {d : Decision} (h : d.applyTo a actor now = .ok (draft, move)) :
  a.Settles draft move
  := by
  obtain ⟨moved, hmoved, hpair⟩ := map_eq_ok h
  obtain ⟨-, -, rfl⟩ := transition_eq_ok_iff.mp hmoved
  obtain ⟨hdraft, hmove⟩ := Prod.mk.inj hpair
  obtain ⟨hwaiting, hfinal, hfields⟩ := Decision.applyTo_eq_ok h
  constructor
  case waiting => exact hwaiting
  case final => simpa [hfields] using hfinal
  case stage => simpa [hfields] using isSettled_settledBy hfinal a.stage
  case move =>
    rw [← hmove, stageMove_eq, hdraft, record, appendIfAny_eq]
    split <;> rfl
  case documents => rw [hfields]

theorem Withdrawal.settles {w : Withdrawal} (h : w.applyTo a actor now = .ok (draft, move)) :
  a.Settles draft move
  := by
  obtain ⟨moved, hmoved, hpair⟩ := map_eq_ok h
  obtain ⟨-, -, rfl⟩ := transition_eq_ok_iff.mp hmoved
  obtain ⟨hdraft, hmove⟩ := Prod.mk.inj hpair
  obtain ⟨hwaiting, hfields⟩ := Withdrawal.applyTo_eq_ok h
  constructor
  case waiting => exact hwaiting
  case final => simp [hfields]
  case stage =>
    rw [hfields]
    rfl
  case move =>
    rw [← hmove, stageMove_eq, hdraft]
    cases w.note with
    | none | some note => rfl
  case documents => rw [hfields]

/-- A patch with a status settles the stage as a decision does. -/
theorem Patch.settles {p : Patch} {target : Status} (htarget : p.status = some target)
    (h : p.applyTo a actor now = .ok (draft, move)) :
  a.Settles draft move
  := by
  obtain ⟨hnone, -⟩ | ⟨target', -, hwaiting, hfinal, hfields⟩ := Patch.applyTo_eq_ok h
  · rw [hnone] at htarget
    cases htarget
  rw [applyTo, htarget] at h
  obtain ⟨moved, hmoved, hpair⟩ := map_eq_ok h
  obtain ⟨-, -, rfl⟩ := transition_eq_ok_iff.mp hmoved
  obtain ⟨hdraft, hmove⟩ := Prod.mk.inj hpair
  constructor
  case waiting => exact hwaiting
  case final => simpa [hfields] using hfinal
  case stage => simpa [hfields] using isSettled_settledBy hfinal a.stage
  case move =>
    rw [← hmove, stageMove_eq, ← hdraft, label, appendIfAny_eq]
  case documents => rw [hfields]

end Rehoming
