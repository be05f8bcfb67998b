import Rehoming.Proofs.Sharing.Alone
import Rehoming.Proofs.Sharing.Requests
/-!
# Stored answers fit the form

As long as the registry of questions stays as it is, the answers of every stored application fit
the form of its rescue.  Answers come in on two ways.  Those of a submission are checked against
the form of the rescue of the pet, which becomes the rescue of the application; those of an edit
against the form of the rescue of the very record that the edit is going to replace.
-/

namespace Rehoming

/-- Whether the answers of an application fit the form that a registry has for its rescue. -/
def Application.FitsForm (questions : Registry) (a : Application) : Prop :=
  (AnswerReport.of (questions.formOf a.rescueId) a.answers).isValid = true

section FitsForm

variable {questions : Registry} {policy : Policy} {actor : Actor} {now : Time.Instant}
  {a before draft : Application}

/-- What a change leaves alone of the answers and the rescue fits as before. -/
theorem Application.FitsForm.congr (h : before.FitsForm questions)
    (hrescue : draft.rescueId = before.rescueId) (hanswers : draft.answers = before.answers) :
  draft.FitsForm questions
  := by
  rw [FitsForm, hrescue, hanswers]
  apply h

/-- Answers that have passed the check fit the form. -/
theorem Application.fitsForm_of_errors
    (h : (AnswerReport.of (questions.formOf a.rescueId) a.answers).errors = []) :
  a.FitsForm questions
  := List.isEmpty_iff.mpr h

/-- Only an edit changes answers, and it has checked them against the form of the record. -/
theorem Amends.fitsForm (h : Amends (·.questions = questions) policy actor now before draft)
    (hfits : before.FitsForm questions) :
  draft.FitsForm questions
  := by
  cases h with
  | edit e hfaults may submitted hchecked =>
    cases hanswers : e.answers with
    | none =>
      have hkept : (e.applyTo before).answers = before.answers := by simp [Edit.applyTo, hanswers]
      apply Application.FitsForm.congr hfits _ hkept
      rfl
    | some answers =>
      by_cases hsame : Answer.sameMembers before.answers answers = true
      · have hkept : (e.applyTo before).answers = before.answers := by
          simp [Edit.applyTo, hanswers, hsame]
        apply Application.FitsForm.congr hfits _ hkept
        rfl
      · obtain ⟨w, rfl, hreport⟩ := hchecked answers hanswers
        have hnew : (e.applyTo before).answers = answers := by simp [Edit.applyTo, hanswers, hsame]
        apply Application.fitsForm_of_errors
        rw [hnew]
        apply hreport
  | check | attach | delete => apply hfits.congr rfl rfl
  | decide d draft move may h =>
    obtain ⟨-, -, rfl⟩ := Decision.applyTo_eq_ok h
    apply hfits.congr rfl rfl
  | withdraw w draft move may h =>
    obtain ⟨-, rfl⟩ := Withdrawal.applyTo_eq_ok h
    apply hfits.congr rfl rfl
  | chooseStage c =>
    rw [c.applyTo_eq]
    apply hfits.congr rfl rfl
  | patch p draft move may h =>
    obtain ⟨-, rfl⟩ | ⟨target, -, -, -, rfl⟩ := Patch.applyTo_eq_ok h
    · apply hfits.congr rfl rfl
    · apply hfits.congr rfl rfl

/-- A submission has checked its answers against the form of the rescue of the pet. -/
theorem Submits.fitsForm (h : Submits (·.questions = questions) policy actor now a) :
  a.FitsForm questions
  := by
  cases h with
  | submit s name pet hfaults hpet available hchecked =>
    obtain ⟨w, rfl, hreport⟩ := hchecked
    apply Application.fitsForm_of_errors
    apply hreport

end FitsForm

/-- Whether a move leaves the registry of questions as it is. -/
def Move.Keeps {ι : Type} (questions : Registry) : Move ι → Prop
  | turn _ => True
  | refit _ later => later = questions

namespace System

variable {ι : Type} {policy : Policy} {requests : ι → Request} {questions : Registry}
  {s : System fun i => (requests i).Reply}

/-- What every run with the same registry of questions preserves. -/
structure Fitting (policy : Policy) (questions : Registry)
    (s : System fun i => (requests i).Reply) : Prop where
  sound : s.Sound
  obeys : s.Obeys (.ofActors (·.questions = questions) policy fun _ => True)
  registry : s.world.questions = questions
  fits : ∀ a ∈ s.world.records, a.FitsForm questions

theorem fitting_start (w : Rehoming.World) :
  Fitting policy w.questions (ofRequests policy requests { w with records := [] })
  := by
  constructor
  case sound => apply sound_start
  case obeys =>
    intro i
    apply Service.obeys_any_iff.mp ((requests i).obeys policy)
  case registry => rfl
  case fits => rintro a ⟨⟩

variable [DecidableEq ι]

theorem Fitting.turn (h : Fitting policy questions s) (t : Turn ι) :
  Fitting policy questions (s.turn t)
  := by
  constructor
  case sound => apply h.sound.move (.turn t)
  case obeys => apply h.obeys.turn h.registry
  case registry =>
    apply turn_induction (P := fun s => s.world.questions = questions) h.registry
    intro call next _
    apply (World.sameOffice_answer call (s.worldAt t)).2.trans h.registry
  case fits =>
    apply stored_turn (h.obeys t.client) h.sound _ _ h.fits
    · rintro now a ⟨actor, -, hsubmits⟩
      apply hsubmits.fitsForm
    · rintro now before a ⟨actor, draft, -, hamends, rfl⟩ hbefore
      apply (hamends.fitsForm hbefore).congr rfl rfl

theorem Fitting.move (h : Fitting policy questions s) {m : Move ι} (hkeeps : m.Keeps questions) :
  Fitting policy questions (s.move m)
  := by
  cases m with
  | turn t => apply h.turn
  | refit directory later => exact ⟨h.sound, h.obeys, hkeeps, h.fits⟩

/-- From an empty store, whatever clients ask for and in whatever order they take their turns, the
answers of every stored application fit the form of its rescue at all times, as long as the
registry of questions stays as it is. -/
theorem stored_answers_fit (policy : Policy) (requests : ι → Request) (w : Rehoming.World)
    (moves : List (Move ι)) (hkeeps : ∀ m ∈ moves, m.Keeps w.questions) :
  ∀ a ∈ ((ofRequests policy requests { w with records := [] }).run moves).world.records,
    (AnswerReport.of (w.questions.formOf a.rescueId) a.answers).isValid = true
  := by
  have hfitting : Fitting policy w.questions
      ((ofRequests policy requests { w with records := [] }).run moves) := by
    apply run_induction _ (fitting_start w)
    intro m hm s hs
    apply hs.move (hkeeps m hm)
  apply hfitting.fits

end System

namespace Demo

/-- The form that asks for a mail address only. -/
def mailForm : Registry :=
  coreQuestions.filter (·.key == "email")

/-- An edit of the answers to that form. -/
def mailEdit (mail : String) : Edit :=
  ⟨some (Dictionary.ofList [("email", .text mail)]), none, none, none, none, none, none, none⟩

/-- The adopter applies for a pet, gives another mail address, and then one that is none. -/
def correction : Fin 3 → Request
  | 0 => .mutation (.submit (submission rufus) adopter)
  | 1 => .mutation (.edit ⟨"app-1"⟩ (mailEdit "rowe@northside.example") adopter)
  | 2 => .mutation (.edit ⟨"app-1"⟩ (mailEdit "rowe") adopter)

/-- The three clients one after the other, and a change of the directory in between. -/
def correctionMoves : List (Move (Fin 3)) :=
  turns 0 11 0 ++ turns 1 9 20 ++ [.refit {} mailForm] ++ turns 2 9 40

theorem keeps_of_mem_turns {client : Fin 3} {count start : Nat} {m : Move (Fin 3)}
    (h : m ∈ turns client count start) (questions : Registry) :
  m.Keeps questions
  := by
  obtain ⟨k, -, rfl⟩ := List.mem_map.mp h
  trivial

end Demo

/-- The mail address that is stored in the end is the second one. -/
theorem System.corrected_answers_fit :
  let w : Rehoming.World := { Demo.informalWorld with questions := Demo.mailForm }
  (∀ m ∈ Demo.correctionMoves, m.Keeps w.questions)
  ∧ ∃ a ∈ ((ofRequests Demo.policy Demo.correction { w with records := [] }).run
      Demo.correctionMoves).world.records,
    (a.answers.at? "email").bind Answer.asText = some "rowe@northside.example"
    ∧ (AnswerReport.of (w.questions.formOf a.rescueId) a.answers).isValid = true
  := by
  intro w
  have hkeeps : ∀ m ∈ Demo.correctionMoves, m.Keeps w.questions := by
    intro m hm
    simp only [Demo.correctionMoves, List.mem_append, List.mem_singleton] at hm
    obtain ((h | h) | rfl) | h := hm
    · apply Demo.keeps_of_mem_turns h
    · apply Demo.keeps_of_mem_turns h
    · rfl
    · apply Demo.keeps_of_mem_turns h
  have hmail : some "rowe@northside.example" ∈ ((ofRequests Demo.policy Demo.correction
      { w with records := [] }).run Demo.correctionMoves).world.records.map fun a =>
        (a.answers.at? "email").bind Answer.asText := by decide +kernel
  obtain ⟨a, ha, hanswer⟩ := List.mem_map.mp hmail
  use hkeeps, a, ha, hanswer
  apply stored_answers_fit Demo.policy Demo.correction w Demo.correctionMoves hkeeps a ha

end Rehoming
