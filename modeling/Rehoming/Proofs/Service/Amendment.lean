import Rehoming.Proofs.Application.Change
import Rehoming.Proofs.Service.Discipline
import Rehoming.Service.Batch
import Rehoming.Service.Check
import Rehoming.Service.Edit
import Rehoming.Service.Submit
/-!
# Amendments

What the operations of the service may make of a stored record, and which records they may
add.  Each operation that changes a record runs one change of it, and `Amends` has a case for
each of them, with the checks that the change has passed.  The changes themselves only read,
and read the clock, a fresh name and the active applications once at most.
-/

namespace Rehoming

/-- What an actor may make of a record before the times of the write are put in, where the
worlds of `E` know the forms of the rescues. -/
inductive Amends (E : World → Prop) (policy : Policy) (actor : Actor) (now : Time.Instant)
    (before : Application) : Application → Prop
  | edit (e : Edit) :
      e.faults policy.maxReferences = [] → actor.mayDo .updateContent before = true →
      before.status = .submitted →
      (∀ answers, e.answers = some answers → ∃ w, E w ∧
        (AnswerReport.of (w.questions.formOf before.rescueId) answers).errors = []) →
      Amends E policy actor now before (e.applyTo before)
  | decide (d : Decision) (draft : Application) (move : Option Application.StageMove) :
      actor.mayDo .changeStatus before = true →
      d.applyTo before actor.userId now = .ok (draft, move) →
      Amends E policy actor now before draft
  | withdraw (w : Withdrawal) (draft : Application) (move : Option Application.StageMove) :
      actor.mayDo .withdraw before = true →
      w.applyTo before actor.userId now = .ok (draft, move) →
      Amends E policy actor now before draft
  | check (u : ReferenceUpdate) (index : Nat) :
      u.resolve policy.maxReferenceSlots = .ok index →
      actor.mayDo .updateReference before = true →
      Amends E policy actor now before
        { before with
          references := u.apply index (Reference.ensureSlot before.references index before.answers) }
  | attach (u : Upload) (name : String) :
      u.faults = [] → actor.mayDo .addDocument before = true →
      Amends E policy actor now before
        { before with documents := before.documents ++ [u.document name now] }
  | chooseStage (c : StageChoice) :
      c.faults = [] → actor.mayDo .changeStage before = true → before.status = .submitted →
      Amends E policy actor now before (c.applyTo before)
  | delete :
      actor.mayDo .delete before = true → before.status = .submitted →
      Amends E policy actor now before (before.delete now)
  | patch (p : Patch) (draft : Application) (move : Option Application.StageMove) :
      actor.mayDo .bulkUpdate before = true →
      p.applyTo before actor.userId now = .ok (draft, move) →
      Amends E policy actor now before draft

/-- Which records a submission of an actor may add. -/
inductive Submits (E : World → Prop) (policy : Policy) (actor : Actor) (now : Time.Instant) :
    Application → Prop
  | submit (s : Submission) (name : String) (pet : Pet) :
      s.faults policy.maxReferences = [] →
      (∃ w, E w ∧ w.directory.findPet s.petId = some pet) → pet.status = .available →
      (∃ w, E w ∧ (AnswerReport.of (w.questions.formOf pet.rescueId) s.answers).errors = []) →
      Submits E policy actor now
        (s.application ⟨name⟩ actor.userId pet.petId pet.rescueId now policy.ttlDays)

/-- The calls that only read, each of the clock, the names and the active applications once
at most. -/
def Sight.permits (σ : Sight) : Call → Prop
  | .now => σ.clock = none
  | .fresh _ => σ.name = none
  | .findActive .. => σ.active = none
  | .findUser _ | .findPet _ | .findStaffRescue _ | .questionsForRescue _ => True
  | _ => False

/-- Reading only. -/
def reading (E : World → Prop) : Discipline where
  worlds := E
  allows := Sight.permits

variable {E : Rehoming.World → Prop} {policy : Policy} {actor : Actor} {σ : Sight}

/-- An amendment leaves the name of the record. -/
theorem Amends.applicationId {now : Time.Instant} {before draft : Application}
    (h : Amends E policy actor now before draft) :
  draft.applicationId = before.applicationId
  := by
  cases h with
  | edit | check | attach | delete => rfl
  | decide d draft move _ h =>
    obtain ⟨-, -, rfl⟩ := Decision.applyTo_eq_ok h
    rfl
  | withdraw w draft move _ h =>
    obtain ⟨-, rfl⟩ := Withdrawal.applyTo_eq_ok h
    rfl
  | chooseStage c => rw [c.applyTo_eq]
  | patch p draft move _ h =>
    obtain ⟨-, rfl⟩ | ⟨target, -, -, -, rfl⟩ := Patch.applyTo_eq_ok h
    · rfl
    · rfl

/-- A call that only reads leaves the world as it is. -/
theorem Sight.permits.world_eq {call : Call} (h : σ.permits call) (w : World) :
  (World.answer call w).2 = w
  := by
  cases call with
  | now | fresh | findActive | findUser | findPet | findStaffRescue | questionsForRescue => rfl
  | insert | update | fetch | search | listForRescue | matchingUsers | matchingPets | record
  | eventsFor | eventsForMany | log => cases h

/-- A program that only reads leaves the world as it is. -/
theorem Program.Obeys.run_reading {α : Type} {post : Sight → α → Prop} {p : Program α}
    {w : Rehoming.World} (h : p.Obeys (reading E) post σ) (hw : E w) :
  (p.run World.answer w).2 = w ∧ ∃ σ', post σ' (p.run World.answer w).1
  := by
  induction p generalizing σ with
  | done a => exact ⟨rfl, σ, h⟩
  | ask call next ih =>
    rw [Program.run_ask, h.1.world_eq]
    apply ih
    apply h.2 w hw

namespace Service

@[simp]
theorem obeys_allowed {α : Type} {D : Discipline} {ok : Sight → α → Prop}
    {bad : Sight → Refusal → Prop} (r : Except TransitionRefused α) :
  (allowed r).Obeys D ok bad σ
    ↔ (∀ a, r = .ok a → ok σ a) ∧ ∀ refused, r = .error refused → bad σ (.invalidTransition refused)
  := by
  cases r with
  | ok a => simp [allowed]
  | error refused => simp [allowed]

/-- That a change of a record, once the record has been looked up and the clock has been
read, only reads, and makes an amendment. -/
def ChangeAmends {α : Type} (E : World → Prop) (policy : Policy) (actor : Actor)
    (change : Change α) : Prop :=
  ∀ (before : Application) (now : Time.Instant) (σ : Sight), σ.name = none →
    (change before now).Obeys (reading E)
      (fun σ' r => σ'.clock = σ.clock ∧ σ'.found = σ.found ∧ σ'.active = σ.active
        ∧ Amends E policy actor now before r.1)
      (fun _ _ => True) σ

/-- That a change of a record, once the record has been looked up, is not refused because a
store has failed. -/
def ChangeDeclines {α : Type} (E : World → Prop) (change : Change α) : Prop :=
  ∀ (before : Application) (now : Time.Instant) (σ : Sight), σ.name = none →
    (change before now).Obeys (reading E) (fun _ _ => True) (fun _ e => e.kind ≠ .storeFailure) σ

theorem editChange_amends {e : Edit} (h : e.faults policy.maxReferences = []) :
  ChangeAmends E policy actor (editChange e actor)
  := by
  intro before now σ _
  cases he : e.answers with
  | none =>
    simp only [editChange, he, obeys_bind, obeys_requireAccess, obeys_requireSubmitted, obeys_pure,
      implies_true, and_true, true_and]
    intro may submitted
    apply Amends.edit e h may submitted
    simp [he]
  | some answers =>
    simp only [editChange, he, obeys_bind, obeys_requireAccess, obeys_requireSubmitted,
      obeys_requireAnswers, obeys_pure, reading, Sight.permits, implies_true, and_true, true_and]
    intro may submitted w hw hreport
    apply Amends.edit e h may submitted
    intro answers' hanswers
    obtain rfl : answers = answers' := by simpa [he] using hanswers
    exact ⟨w, hw, hreport⟩

theorem decisionChange_amends {d : Decision} :
  ChangeAmends E policy actor (decisionChange d actor)
  := by
  intro before now σ _
  simp only [decisionChange, obeys_bind, obeys_requireAccess, obeys_allowed, implies_true, and_true,
    true_and]
  rintro may ⟨draft, move⟩ h
  apply Amends.decide d draft move may h

theorem withdrawalChange_amends {w : Withdrawal} :
  ChangeAmends E policy actor (withdrawalChange w actor)
  := by
  intro before now σ _
  simp only [withdrawalChange, obeys_bind, obeys_requireAccess, obeys_allowed, implies_true, and_true,
    true_and]
  rintro may ⟨draft, move⟩ h
  apply Amends.withdraw w draft move may h

theorem checkChange_amends {u : ReferenceUpdate} {index : Nat}
    (h : u.resolve policy.maxReferenceSlots = .ok index) :
  ChangeAmends E policy actor (checkChange u index actor)
  := by
  intro before now σ _
  simp only [checkChange, obeys_bind, obeys_requireAccess, obeys_pure, implies_true, and_true, true_and]
  intro may
  apply Amends.check u index h may

theorem uploadChange_amends {u : Upload} (h : u.faults = []) :
  ChangeAmends E policy actor (uploadChange u actor)
  := by
  intro before now σ hname
  simp only [uploadChange, obeys_bind, obeys_requireAccess, obeys_ask, obeys_pure, reading,
    Sight.permits, Sight.after, hname, implies_true, and_true, true_and]
  intro may w _
  apply Amends.attach u _ h may

theorem stageChange_amends {c : StageChoice} (h : c.faults = []) :
  ChangeAmends E policy actor (stageChange c actor)
  := by
  intro before now σ _
  simp only [stageChange, obeys_bind, obeys_requireAccess, obeys_requireSubmitted, obeys_pure,
    implies_true, and_true, true_and]
  intro may submitted
  apply Amends.chooseStage c h may submitted

theorem deletionChange_amends :
  ChangeAmends E policy actor (deletionChange actor)
  := by
  intro before now σ _
  simp only [deletionChange, obeys_bind, obeys_requireAccess, obeys_requireSubmitted, obeys_pure,
    implies_true, and_true, true_and]
  intro may submitted
  apply Amends.delete may submitted

theorem patchChange_amends {p : Patch} :
  ChangeAmends E policy actor (patchChange p actor)
  := by
  intro before now σ _
  simp only [patchChange, obeys_bind, obeys_requireAccess, obeys_allowed, implies_true, and_true,
    true_and]
  rintro may ⟨draft, move⟩ h
  apply Amends.patch p draft move may h

/-! ### Refusals of changes -/

theorem editChange_declines {e : Edit} :
  ChangeDeclines E (editChange e actor)
  := by
  intro before now σ _
  cases he : e.answers with
  | none =>
    simp only [editChange, he, obeys_bind, obeys_requireAccess, obeys_requireSubmitted, obeys_pure]
    simp [Refusal.kind]
  | some answers =>
    simp only [editChange, he, obeys_bind, obeys_requireAccess, obeys_requireSubmitted,
      obeys_requireAnswers, obeys_pure, reading, Sight.permits]
    simp [Refusal.kind]

theorem decisionChange_declines {d : Decision} :
  ChangeDeclines E (decisionChange d actor)
  := by
  intro before now σ _
  simp [decisionChange, Refusal.kind]

theorem withdrawalChange_declines {w : Withdrawal} :
  ChangeDeclines E (withdrawalChange w actor)
  := by
  intro before now σ _
  simp [withdrawalChange, Refusal.kind]

theorem checkChange_declines {u : ReferenceUpdate} {index : Nat} :
  ChangeDeclines E (checkChange u index actor)
  := by
  intro before now σ _
  simp only [checkChange, obeys_bind, obeys_requireAccess, obeys_pure]
  simp [Refusal.kind]

theorem uploadChange_declines {u : Upload} :
  ChangeDeclines E (uploadChange u actor)
  := by
  intro before now σ hname
  simp only [uploadChange, obeys_bind, obeys_requireAccess, obeys_ask, obeys_pure, reading,
    Sight.permits, hname]
  simp [Refusal.kind]

theorem stageChange_declines {c : StageChoice} :
  ChangeDeclines E (stageChange c actor)
  := by
  intro before now σ _
  simp only [stageChange, obeys_bind, obeys_requireAccess, obeys_requireSubmitted, obeys_pure]
  simp [Refusal.kind]

theorem deletionChange_declines :
  ChangeDeclines E (deletionChange actor)
  := by
  intro before now σ _
  simp only [deletionChange, obeys_bind, obeys_requireAccess, obeys_requireSubmitted, obeys_pure]
  simp [Refusal.kind]

theorem patchChange_declines {p : Patch} :
  ChangeDeclines E (patchChange p actor)
  := by
  intro before now σ _
  simp [patchChange, Refusal.kind]

end Service

end Rehoming
