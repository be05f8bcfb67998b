import Rehoming.Proofs.Service.Amendment
import Rehoming.Proofs.Text.Trim
/-!
# The course of an application

The amendments in five kinds, by the fields they touch: the owner edits a submitted
application, somebody follows up on it, the staff chooses its stage, a final status settles
it, and its owner deletes it.  Only following up happens to applications that are not
submitted.
-/

namespace Rehoming

/-- Whether notes have only grown: what was there stands at the front of what is there now. -/
def Application.NotesGrow (old new : Option String) : Prop :=
  ∀ o, old = some o → ∃ n, new = some n ∧ o.toList <+: n.toList

/-- What a user may make of a record, by the fields that change. -/
inductive Course (user : UserId) (now : Time.Instant) (before : Application) : Application → Prop
  | edit (answers : Answers) (references : List Reference) (priority : Priority)
      (notes interviewNotes homeVisitNotes : Option String) (score : Option Nat) (tags : TextSet) :
      before.status = .submitted →
      (∀ n, score = some n → before.score = some n ∨ n ≤ Edit.maxScore) →
      Course user now before
        { before with
          answers, references, priority, notes, interviewNotes, homeVisitNotes, score, tags }
  | follow (references : List Reference) (documents : List Document) (priority : Priority)
      (notes : Option String) (tags : TextSet) :
      before.documents <+: documents → Application.NotesGrow before.notes notes →
      Course user now before { before with references, documents, priority, notes, tags }
  | stage (stage : Stage) (notes : Option String) :
      before.status = .submitted → stage.isSettled = false →
      Course user now before { before with stage, notes }
  | settle (status : Status) (priority : Priority) (notes rejectionReason : Option String)
      (tags : TextSet) (followUpDate : Option Time.Instant) :
      before.status = .submitted → status ≠ .submitted →
      (∀ r, rejectionReason = some r → before.rejectionReason = some r
        ∨ status = .rejected ∧ Text.isBlank r = false ∧ Text.trim r = r) →
      Course user now before
        { before with
          status, priority, notes, rejectionReason, tags, followUpDate
          stage := (Stage.settledBy status).getD before.stage
          actionedBy := some user
          actionedAt := some now
          decisionAt := if status = .approved ∨ status = .rejected then some now
            else before.decisionAt }
  | delete :
      before.status = .submitted → Course user now before (before.delete now)

namespace Application

theorem NotesGrow.refl (notes : Option String) :
  NotesGrow notes notes
  := by
  intro o ho
  exact ⟨o, ho, List.prefix_rfl⟩

theorem NotesGrow.trans {old between new : Option String} (h : NotesGrow old between)
    (h' : NotesGrow between new) :
  NotesGrow old new
  := by
  intro o ho
  obtain ⟨b, hb, hprefix⟩ := h o ho
  obtain ⟨n, hn, hprefix'⟩ := h' b hb
  exact ⟨n, hn, hprefix.trans hprefix'⟩

/-- Notes with an addition have grown. -/
theorem notesGrow_notesWith (notes addition : Option String) :
  NotesGrow notes (notesWith notes addition)
  := by
  rw [notesWith]
  cases Text.nonBlank addition with
  | none => apply NotesGrow.refl
  | some text =>
    rintro o rfl
    use joinNotes (some o) text, rfl
    rw [joinNotes]
    split
    next h =>
      subst h
      apply List.nil_prefix
    next =>
      rw [String.append_assoc, String.toList_append]
      apply List.prefix_append

end Application

theorem Edit.score_le {e : Edit} {maxReferences n : Nat} (h : e.faults maxReferences = [])
    (hscore : e.score = some n) :
  n ≤ maxScore
  := by
  rw [faults, hscore] at h
  obtain ⟨h, -⟩ := List.append_eq_nil_iff.mp h
  by_contra hn
  simp [hn] at h

theorem StageChoice.isSettled_eq_false {c : StageChoice} (h : c.faults = []) :
  c.stage.isSettled = false
  := by
  rw [faults] at h
  cases hsettled : c.stage.isSettled with
  | false => rfl
  | true => simp [hsettled] at h

/-! ### What every kind leaves -/

section

variable {user : UserId} {now : Time.Instant} {before draft : Application}

theorem Course.samePair (h : Course user now before draft) :
  draft.userId = before.userId ∧ draft.petId = before.petId
  := by
  cases h with
  | edit | follow | stage | settle | delete => exact ⟨rfl, rfl⟩

/-- No amendment makes an application active that was not. -/
theorem Course.isActive_of (h : Course user now before draft) (active : draft.isActive = true) :
  before.isActive = true
  := by
  cases h with
  | edit | follow | stage => exact active
  | settle status _ _ _ _ _ submitted =>
    simp only [Application.isActive, Application.isDeleted, Bool.and_eq_true] at active ⊢
    rw [submitted]
    exact ⟨rfl, active.2⟩
  | delete => simp [Application.isActive, Application.isDeleted, Application.delete] at active

end

variable {E : Rehoming.World → Prop} {policy : Policy} {actor : Actor} {now : Time.Instant}
  {before draft : Application}

/-- Every amendment is of one of the five kinds. -/
theorem Amends.course (h : Amends E policy actor now before draft) :
  Course actor.userId now before draft
  := by
  cases h with
  | edit e hfaults may submitted hanswers =>
    refine .edit _ _ _ _ _ _ _ _ submitted ?_
    intro n hn
    obtain hgiven | ⟨-, hkept⟩ := Option.or_eq_some_iff.mp hn
    · right
      apply Edit.score_le hfaults
      exact (Option.filter_eq_some_iff.mp hgiven).1
    · left
      exact hkept
  | decide d draft move may h =>
    obtain ⟨submitted, hfinal, rfl⟩ := Decision.applyTo_eq_ok h
    refine .settle _ _ _ _ _ _ submitted hfinal ?_
    intro r hr
    split at hr
    next hrejected =>
      obtain hgiven | ⟨-, hkept⟩ := Option.or_eq_some_iff.mp hr
      · right
        use hrejected
        apply Text.nonBlank_eq_some hgiven
      · left
        exact hkept
    next =>
      left
      exact hr
  | withdraw w draft move may h =>
    obtain ⟨submitted, rfl⟩ := Withdrawal.applyTo_eq_ok h
    refine .settle .withdrawn _ _ _ _ _ submitted (by decide) ?_
    intro r hr
    left
    exact hr
  | check u index hresolve may =>
    refine .follow _ _ _ _ _ ?_ (Application.NotesGrow.refl _)
    apply List.prefix_rfl
  | attach u name hfaults may =>
    refine .follow _ _ _ _ _ ?_ (Application.NotesGrow.refl _)
    apply List.prefix_append
  | chooseStage c hfaults may submitted =>
    rw [c.applyTo_eq]
    apply Course.stage _ _ submitted (StageChoice.isSettled_eq_false hfaults)
  | delete may submitted => exact .delete submitted
  | patch p draft move may h =>
    obtain ⟨-, rfl⟩ | ⟨target, -, submitted, hfinal, rfl⟩ := Patch.applyTo_eq_ok h
    · refine .follow _ _ _ _ _ ?_ (Application.notesGrow_notesWith _ _)
      apply List.prefix_rfl
    · refine .settle _ _ _ _ _ _ submitted hfinal ?_
      intro r hr
      left
      exact hr

end Rehoming
