import Rehoming.Proofs.Service.Program
import Rehoming.Service.Commit
import Mathlib.Tactic.Use
/-!
# Disciplines

What a program may ask for, given what it has learnt so far.  A discipline says which worlds
may answer and which calls are allowed; a program obeys it with an outcome if, whatever those
worlds answer, it only makes allowed calls and returns with that outcome.  Obedience is
computed along the program: a program after another one obeys if the first obeys with the
outcome that the second one does.
-/

namespace Rehoming

/-- What a program has learnt since it last looked up or wrote a record: the reading of the
clock, the name it was given last, what it found under a name, and which active application
of an applicant for a pet it found. -/
structure Sight where
  clock : Option Time.Instant := none
  name : Option String := none
  found : Option (ApplicationId × Option Application) := none
  active : Option (UserId × PetId × Option Application) := none

namespace Sight

/-- What has been learnt after the answer to a call.  Looking up a record begins anew, and
nothing is left after a write. -/
def after (σ : Sight) : (call : Call) → call.Answer → Sight
  | .now, t => { σ with clock := some t }
  | .fresh _, name => { σ with name := some name }
  | .fetch id false, .ok found => { found := some (id, found) }
  | .findActive user pet, .ok found => { σ with active := some (user, pet, found) }
  | .insert _, _ => {}
  | .update .., _ => {}
  | _, _ => σ

end Sight

/-- Whom an actor acts as, where the worlds of `E` know the staff: as itself, or as a member
of the staff of the rescue that the directory knows. -/
inductive Actor.ActsAs (E : World → Prop) (actor : Actor) : Actor → Prop
  | itself : ActsAs E actor actor
  | staff (w : World) : E w → actor.role = .rescueStaff → actor.rescueId = none →
      ActsAs E actor { actor with rescueId := w.directory.findStaffRescue actor.userId }

/-- The worlds that may answer, and the calls that are allowed. -/
structure Discipline where
  worlds : World → Prop := fun _ => True
  allows : Sight → Call → Prop

/-- Whether a program that has learnt `σ` makes only allowed calls and returns with an
outcome in `post`, whatever the worlds of a discipline answer. -/
def Program.Obeys {α : Type} (D : Discipline) (post : Sight → α → Prop) :
    Program α → Sight → Prop
  | .done a, σ => post σ a
  | .ask call next, σ =>
    D.allows σ call ∧ ∀ w, D.worlds w →
      (next (World.answer call w).1).Obeys D post (σ.after call (World.answer call w).1)

/-- Whether an operation makes only allowed calls, returns with an outcome in `ok`, and is
refused with one in `bad`. -/
def Service.Obeys {α : Type} (D : Discipline) (ok : Sight → α → Prop)
    (bad : Sight → Refusal → Prop) (x : Service α) (σ : Sight) : Prop :=
  x.run.Obeys D
    (fun σ r => match r with
      | .ok a => ok σ a
      | .error e => bad σ e) σ

variable {α β : Type} {D D' : Discipline}

/-! ### Programs -/

namespace Program

@[simp]
theorem obeys_done {post : Sight → α → Prop} (a : α) (σ : Sight) :
  (done a).Obeys D post σ ↔ post σ a
  := Iff.rfl

@[simp]
theorem obeys_ask {post : Sight → α → Prop} (call : Call) (next : call.Answer → Program α)
    (σ : Sight) :
  (ask call next).Obeys D post σ
    ↔ D.allows σ call ∧ ∀ w, D.worlds w →
        (next (World.answer call w).1).Obeys D post (σ.after call (World.answer call w).1)
  := Iff.rfl

@[simp]
theorem obeys_bind {post : Sight → β → Prop} (p : Program α) (f : α → Program β) (σ : Sight) :
  (p.bind f).Obeys D post σ ↔ p.Obeys D (fun σ a => (f a).Obeys D post σ) σ
  := by
  induction p generalizing σ with
  | done a => rfl
  | ask call next ih => simp [ih]

/-- What obeys a discipline obeys a laxer one, with a weaker outcome. -/
theorem Obeys.mono {post post' : Sight → α → Prop} {p : Program α} {σ : Sight}
    (hworlds : ∀ w, D'.worlds w → D.worlds w)
    (hallows : ∀ σ call, D.allows σ call → D'.allows σ call)
    (hpost : ∀ σ a, post σ a → post' σ a) (h : p.Obeys D post σ) :
  p.Obeys D' post' σ
  := by
  induction p generalizing σ with
  | done a => apply hpost _ _ h
  | ask call next ih =>
    constructor
    · apply hallows _ _ h.1
    · intro w hw
      apply ih
      apply h.2 w (hworlds w hw)

end Program

/-! ### Operations -/

namespace Service

variable {ok : Sight → α → Prop} {bad : Sight → Refusal → Prop} {σ : Sight}

@[simp]
theorem obeys_pure (a : α) :
  Service.Obeys D ok bad (pure a : Service α) σ ↔ ok σ a
  := Iff.rfl

@[simp]
theorem obeys_throw (e : Refusal) :
  Service.Obeys D ok bad (throw e : Service α) σ ↔ bad σ e
  := Iff.rfl

@[simp]
theorem obeys_bind {ok : Sight → β → Prop} (x : Service α) (f : α → Service β) :
  Service.Obeys D ok bad (x >>= f) σ
    ↔ x.Obeys D (fun σ a => (f a).Obeys D ok bad σ) bad σ
  := by
  rw [Obeys, run_bind, Program.obeys_bind, Obeys]
  apply iff_of_eq
  congr 1
  funext σ r
  cases r with
  | ok a => rfl
  | error e => rfl

@[simp]
theorem obeys_ask {call : Call} {ok : Sight → call.Answer → Prop} :
  (ask call).Obeys D ok bad σ
    ↔ D.allows σ call ∧ ∀ w, D.worlds w →
        ok (σ.after call (World.answer call w).1) (World.answer call w).1
  := Iff.rfl

@[simp]
theorem obeys_lift (p : Program α) :
  Service.Obeys D ok bad (ExceptT.lift p) σ ↔ p.Obeys D ok σ
  := Program.obeys_bind p _ σ

/-- An operation with any outcome obeys as its program does. -/
theorem obeys_any_iff {x : Service α} :
  x.Obeys D (fun _ _ => True) (fun _ _ => True) σ ↔ x.run.Obeys D (fun _ _ => True) σ
  := by
  rw [Obeys]
  apply iff_of_eq
  congr 1
  funext σ r
  cases r with
  | ok a => rfl
  | error e => rfl

@[simp]
theorem obeys_require (condition : Bool) (e : Refusal) {ok : Sight → Unit → Prop} :
  (require condition e).Obeys D ok bad σ
    ↔ (condition = true → ok σ ()) ∧ (condition = false → bad σ e)
  := by
  cases condition with
  | true => simp [require]
  | false => simp [require]

@[simp]
theorem obeys_present (missing : Refusal) (found : Option α) :
  (present missing found).Obeys D ok bad σ
    ↔ (∀ a, found = some a → ok σ a) ∧ (found = none → bad σ missing)
  := by
  cases found with
  | none => simp [present]
  | some a => simp [present]

@[simp]
theorem obeys_ofExcept (r : Except Refusal α) :
  (ofExcept r).Obeys D ok bad σ
    ↔ (∀ a, r = .ok a → ok σ a) ∧ ∀ e, r = .error e → bad σ e
  := by
  cases r with
  | ok a => simp [ofExcept]
  | error e => simp [ofExcept]

@[simp]
theorem obeys_requireNone (fields : List FieldError) (refusal : List FieldError → Refusal)
    {ok : Sight → Unit → Prop} :
  (requireNone fields refusal).Obeys D ok bad σ
    ↔ (fields = [] → ok σ ()) ∧ (fields ≠ [] → bad σ (refusal fields))
  := by
  simp [requireNone]

@[simp]
theorem obeys_requireAccess (actor : Actor) (operation : Operation) (a : Application)
    {ok : Sight → Unit → Prop} :
  (requireAccess actor operation a).Obeys D ok bad σ
    ↔ (actor.mayDo operation a = true → ok σ ())
      ∧ (actor.mayDo operation a = false →
          bad σ (.accessDenied operation (.application a.applicationId)))
  := obeys_require _ _

@[simp]
theorem obeys_requireScope (actor : Actor) (operation : Operation) (rescue : Option RescueId)
    {ok : Sight → Unit → Prop} :
  (requireScope actor operation rescue).Obeys D ok bad σ
    ↔ (actor.mayDoFor operation rescue = true → ok σ ())
      ∧ (actor.mayDoFor operation rescue = false →
          bad σ (.accessDenied operation (.ofRescue rescue)))
  := obeys_require _ _

@[simp]
theorem obeys_requireSubmitted (a : Application) {ok : Sight → Unit → Prop} :
  (requireSubmitted a).Obeys D ok bad σ
    ↔ (a.status = .submitted → ok σ ()) ∧ (a.status ≠ .submitted → bad σ (.alreadyProcessed a.status))
  := by
  simp [requireSubmitted]

@[simp]
theorem obeys_reportOn (rescue : RescueId) (answers : Answers) {ok : Sight → AnswerReport → Prop} :
  (reportOn rescue answers).Obeys D ok bad σ
    ↔ D.allows σ (.questionsForRescue rescue)
      ∧ ∀ w, D.worlds w → ok σ (AnswerReport.of (w.questions.formOf rescue) answers)
  := by
  simp [reportOn, World.answer, Sight.after]

@[simp]
theorem obeys_requireAnswers (rescue : RescueId) (answers : Answers) {ok : Sight → Unit → Prop} :
  (requireAnswers rescue answers).Obeys D ok bad σ
    ↔ D.allows σ (.questionsForRescue rescue) ∧ ∀ w, D.worlds w →
        ((AnswerReport.of (w.questions.formOf rescue) answers).errors = [] → ok σ ())
        ∧ ((AnswerReport.of (w.questions.formOf rescue) answers).errors ≠ [] →
            bad σ (.answersRefused (AnswerReport.of (w.questions.formOf rescue) answers).errors))
  := by
  simp [requireAnswers]

/-- The actor that is resolved acts as whom the directory of some world makes of it. -/
theorem obeys_resolve (actor : Actor) {ok : Sight → Actor → Prop}
    (hallows : D.allows σ (.findStaffRescue actor.userId))
    (hok : ∀ actor', actor.ActsAs D.worlds actor' → ok σ actor') :
  (resolve actor).Obeys D ok bad σ
  := by
  rw [resolve]
  split
  next h =>
    simp only [obeys_bind, obeys_ask, World.answer, stored_ok, obeys_pure]
    use hallows
    intro w hw
    apply hok _ (.staff w hw h.1 h.2)
  next => apply hok _ .itself

theorem Obeys.mono {ok' : Sight → α → Prop} {bad' : Sight → Refusal → Prop} {x : Service α}
    (hworlds : ∀ w, D'.worlds w → D.worlds w)
    (hallows : ∀ σ call, D.allows σ call → D'.allows σ call)
    (hok : ∀ σ a, ok σ a → ok' σ a) (hbad : ∀ σ e, bad σ e → bad' σ e)
    (h : x.Obeys D ok bad σ) :
  x.Obeys D' ok' bad' σ
  := by
  apply Program.Obeys.mono hworlds hallows _ h
  rintro σ (e | a) hr
  · apply hbad _ _ hr
  · apply hok _ _ hr

end Service

end Rehoming
