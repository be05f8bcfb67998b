import Rehoming.Demo.Cast
import Rehoming.Question.Report
import Rehoming.Proofs.Question.Form
import Rehoming.Proofs.Text.Pieces
import Mathlib.Data.List.Forall2
/-!
# The report on a form

A report lists the refused answers and, of these, the required ones that are missing, each list in
the order of the form.  It tells of the questions of the rescue only.
-/

namespace Rehoming

variable {answers members : Answers} {q : Question} {issue : AnswerIssue} {key : String} {a : Answer}

/-! ### Keys with dots -/

/-- The answer that keys lead to, each of them inside the group under the one before. -/
inductive KeysLead : Answers → List String → Answer → Prop where
  | here {members : Answers} {key : String} {a : Answer}
      (hanswer : Dictionary.get? key members = some a) : KeysLead members [key] a
  | inside {members inner : Answers} {key : String} {rest : List String} {a : Answer}
      (hgroup : Dictionary.get? key members = some (.group inner)) (hrest : KeysLead inner rest a) :
      KeysLead members (key :: rest) a

/-- The answer that a key leads to by the pieces between its dots. -/
def Answers.LeadsTo (answers : Answers) (key : String) (a : Answer) : Prop :=
  ∃ steps : List String,
    (∀ step ∈ steps, '.' ∉ step.toList) ∧ Text.join "." steps = key ∧ KeysLead answers steps a

theorem keysLead_cons_iff {rest : List String} :
  KeysLead members (key :: rest) a ↔ ((Dictionary.get? key members).bind fun b => b.descend rest) = some a
  := by
  induction rest generalizing members key with
  | nil =>
    constructor
    · intro h
      cases h with
      | here hanswer => rw [hanswer, Option.bind_some, Answer.descend]
      | inside _ hrest => cases hrest
    · intro h
      obtain ⟨b, hb, hdescend⟩ := Option.bind_eq_some_iff.mp h
      rw [Answer.descend, Option.some.injEq] at hdescend
      exact .here (hdescend ▸ hb)
  | cons next rest ih =>
    constructor
    · intro h
      cases h with
      | inside hgroup hrest =>
        rw [hgroup, Option.bind_some, Answer.descend]
        exact ih.mp hrest
    · intro h
      obtain ⟨b, hb, hdescend⟩ := Option.bind_eq_some_iff.mp h
      cases b with
      | group inner =>
        rw [Answer.descend] at hdescend
        exact .inside hb (ih.mpr hdescend)
      | boolean | number | text | choices => simp [Answer.descend] at hdescend

/-- The answer at a key is the one that the key leads to. -/
theorem Answers.at?_eq_some_iff :
  answers.at? key = some a ↔ answers.LeadsTo key a
  := by
  rw [Answers.at?]
  cases hsteps : Text.split '.' key with
  | nil => cases (Text.split_eq_iff.mp hsteps).1 rfl
  | cons first rest =>
    obtain ⟨-, hpieces, hjoin⟩ := Text.split_eq_iff.mp hsteps
    constructor
    · intro h
      exact ⟨first :: rest, hpieces, hjoin, keysLead_cons_iff.mpr h⟩
    · rintro ⟨steps, hsteps', hkey, hleads⟩
      have hne : steps ≠ [] := by
        rintro rfl
        cases hleads
      have hsame : Text.split '.' key = steps := Text.split_eq_iff.mpr ⟨hne, hsteps', hkey⟩
      rw [← hsame, hsteps] at hleads
      exact keysLead_cons_iff.mp hleads

/-! ### Refused and missing answers -/

namespace Question

/-- The question's key leads to no answer, or to a blank one. -/
def IsLeftBlank (answers : Answers) (q : Question) : Prop :=
  ∀ a : Answer, answers.LeadsTo q.key a → a.isBlank = true

/-- The answer that the question's key leads to is refused, or the absence of one is. -/
inductive Refuses (answers : Answers) (q : Question) (issue : AnswerIssue) : Prop where
  | given {a : Answer} (hanswer : answers.LeadsTo q.key a) (hissue : q.issue (some a) = some issue)
  | absent (hanswer : ∀ a : Answer, ¬ answers.LeadsTo q.key a) (hissue : q.issue none = some issue)

/-- The answer, or the absence of one, is refused. -/
def IsRefused (answers : Answers) (q : Question) : Prop :=
  ∃ issue, q.Refuses answers issue

theorem isLeftBlank_iff :
  q.IsLeftBlank answers ↔ (answers.at? q.key).all Answer.isBlank = true
  := by
  simp [IsLeftBlank, ← Answers.at?_eq_some_iff, Option.all_eq_true]

theorem refuses_iff :
  q.Refuses answers issue ↔ AnswerReport.issueIn answers q = some issue
  := by
  rw [AnswerReport.issueIn]
  constructor
  · intro h
    cases h with
    | given hanswer hissue => rwa [Answers.at?_eq_some_iff.mpr hanswer]
    | absent hanswer hissue =>
      have hnone : answers.at? q.key = none := by
        apply Option.eq_none_iff_forall_ne_some.mpr
        intro a ha
        exact hanswer a (Answers.at?_eq_some_iff.mp ha)
      rwa [hnone]
  · intro h
    cases hanswer : answers.at? q.key with
    | none =>
      rw [hanswer] at h
      refine .absent ?_ h
      intro a ha
      rw [← Answers.at?_eq_some_iff, hanswer] at ha
      cases ha
    | some a =>
      rw [hanswer] at h
      exact .given (Answers.at?_eq_some_iff.mp hanswer) h

theorem isRefused_iff :
  q.IsRefused answers ↔ (AnswerReport.issueIn answers q).isSome = true
  := by
  simp only [IsRefused, refuses_iff, Option.isSome_iff_exists]

instance (answers : Answers) : DecidablePred (IsLeftBlank answers) :=
  fun _ => decidable_of_iff _ isLeftBlank_iff.symm

instance (answers : Answers) : DecidablePred (IsRefused answers) :=
  fun _ => decidable_of_iff _ isRefused_iff.symm

/-- An answer that says something is not refused for being missing. -/
theorem issueOf_ne_required (q : Question) (a : Answer) :
  q.issueOf a ≠ some .required
  := by
  cases hkind : q.kind <;> cases a <;> simp [issueOf, hkind]

/-- An answer is missing exactly if the question is required and left blank. -/
theorem issueIn_eq_required_iff :
  AnswerReport.issueIn answers q = some .required ↔ q.isRequired = true ∧ q.IsLeftBlank answers
  := by
  rw [isLeftBlank_iff, AnswerReport.issueIn]
  cases answers.at? q.key with
  | none => simp [issue]
  | some a => cases hblank : a.isBlank <;> simp [issue, hblank, issueOf_ne_required]

end Question

/-! ### Reports -/

/-- What a report tells of the answers to a form. -/
structure IsReport (form : List Question) (answers : Answers) (report : AnswerReport) : Prop where
  isValid_iff : report.isValid = true ↔ report.errors = []
  errors : List.Forall₂ (fun q e => ∃ issue, q.Refuses answers issue ∧ e = issue.fieldError q.key)
    (form.filter fun q => q.IsRefused answers) report.errors
  missing : report.missing
    = (form.filter fun q => q.isRequired = true ∧ q.IsLeftBlank answers).map (·.key)
  bounded : report.missing.length ≤ form.countP (·.isRequired)
  sublist : report.missing.Sublist (report.errors.map (·.field))

/-- The members that are mapped to something, beside what they are mapped to. -/
theorem forall₂_filterMap {α β : Type} {f : α → Option β} {p : α → Bool}
    (hp : ∀ x, p x = (f x).isSome) (l : List α) :
  List.Forall₂ (fun x y => f x = some y) (l.filter p) (l.filterMap f)
  := by
  induction l with
  | nil => exact .nil
  | cons x rest ih =>
    cases hx : f x with
    | none => rwa [List.filter_cons_of_neg (by simp [hp, hx]), List.filterMap_cons_none hx]
    | some y =>
      rw [List.filter_cons_of_pos (by simp [hp, hx]), List.filterMap_cons_some hx]
      exact .cons hx ih

namespace AnswerReport

/-- Every refused question has its error. -/
theorem forall₂_errors (form : List Question) (answers : Answers) :
  List.Forall₂ (fun q e => ∃ issue, q.Refuses answers issue ∧ e = issue.fieldError q.key)
    (form.filter fun q => q.IsRefused answers) (AnswerReport.of form answers).errors
  := by
  refine (forall₂_filterMap ?_ form).imp ?_
  · intro q
    rw [Option.isSome_map, Bool.eq_iff_iff, decide_eq_true_iff, Question.isRefused_iff]
  · intro q e h
    obtain ⟨issue, hissue, rfl⟩ := Option.map_eq_some_iff.mp h
    exact ⟨issue, Question.refuses_iff.mpr hissue, rfl⟩

/-- The errors are those of the refused questions, in the order of the form. -/
theorem map_field_errors (form : List Question) (answers : Answers) :
  (AnswerReport.of form answers).errors.map (·.field)
    = (form.filter fun q => q.IsRefused answers).map (·.key)
  := by
  symm
  rw [← List.forall₂_eq_eq_eq, List.forall₂_map_left_iff, List.forall₂_map_right_iff]
  apply (forall₂_errors form answers).imp
  rintro q _ ⟨issue, -, rfl⟩
  rfl

theorem missing_eq (form : List Question) (answers : Answers) :
  (AnswerReport.of form answers).missing
    = (form.filter fun q => q.isRequired = true ∧ q.IsLeftBlank answers).map (·.key)
  := by
  rw [← List.filterMap_eq_map, List.filterMap_filter]
  simp [AnswerReport.of, Question.issueIn_eq_required_iff]

end AnswerReport

/-- The report on a form tells what it should. -/
theorem isReport_of (form : List Question) (answers : Answers) :
  IsReport form answers (AnswerReport.of form answers)
  := by
  constructor
  case isValid_iff => exact List.isEmpty_iff
  case errors => apply AnswerReport.forall₂_errors
  case missing => apply AnswerReport.missing_eq
  case bounded =>
    rw [AnswerReport.missing_eq, List.length_map, ← List.countP_eq_length_filter]
    apply List.countP_mono_left
    intro q _ h
    exact (of_decide_eq_true h).1
  case sublist =>
    rw [AnswerReport.missing_eq, AnswerReport.map_field_errors]
    apply List.Sublist.map
    apply List.monotone_filter_right
    -- What is missing is refused.
    intro q h
    rw [decide_eq_true_iff, ← Question.issueIn_eq_required_iff, ← Question.refuses_iff] at h
    exact decide_eq_true ⟨_, h⟩

/-- For a rescue and some answers, the form holds each question that the rescue asks once and in
order, the report tells just what is refused and what is missing in it, and the questions that the
rescue does not ask make no difference to the report. -/
theorem answer_report_exact (questions : Registry) (rescue : RescueId) (answers : Answers) :
  (∃ entries, IsForm questions rescue entries ∧ entries.map Prod.fst = questions.formOf rescue) ∧
    IsReport (questions.formOf rescue) answers (AnswerReport.of (questions.formOf rescue) answers) ∧
    ∀ others : Registry, AlikeFor rescue questions others →
      AnswerReport.of (others.formOf rescue) answers = AnswerReport.of (questions.formOf rescue) answers
  := by
  refine ⟨⟨questions.entries rescue, questions.isForm_entries rescue,
    questions.map_fst_entries rescue⟩, isReport_of _ answers, ?_⟩
  intro others halike
  rw [Registry.formOf_alike halike]

/-! ### A telephone number to fill in -/

namespace Demo

/-- The form that asks for the telephone number of the veterinarian, and for a garden. -/
def clinicForm : Registry :=
  [coreQuestion "has_yard" .householdInformation .boolean "Do you have a yard?" 3 true [],
   coreQuestion "veterinarian.phone" .referencesVerification .phone "Veterinarian telephone" 1 true []]

/-- A question of another rescue. -/
def neighboursQuestion : Question :=
  { coreQuestion "cats" .householdInformation .number "How many cats do you have?" 1 true [] with
    rescueId := some ⟨"rescue-southside"⟩
    scope := .rescueSpecific }

/-- The veterinarian has a name and a blank telephone number. -/
def unreachable : Answers :=
  [("has_yard", .boolean true),
   ("veterinarian", .group [("name", .text "Dr Moss"), ("phone", .text " ")])]

end Demo

/-- The blank telephone number is missed, and the question of another rescue is not. -/
theorem clinic_missing :
  AlikeFor Demo.rescue Demo.clinicForm (Demo.neighboursQuestion :: Demo.clinicForm)
    ∧ (AnswerReport.of (Registry.formOf (Demo.neighboursQuestion :: Demo.clinicForm) Demo.rescue)
        Demo.unreachable).missing = ["veterinarian.phone"]
  := by
  have halike : AlikeFor Demo.rescue Demo.clinicForm (Demo.neighboursQuestion :: Demo.clinicForm) :=
    .right (by decide) (.both _ (.both _ .nil))
  obtain ⟨-, hreport, hothers⟩ := answer_report_exact Demo.clinicForm Demo.rescue Demo.unreachable
  have hform : Demo.clinicForm.formOf Demo.rescue = Demo.clinicForm :=
    List.mergeSort_of_pairwise (by decide)
  refine ⟨halike, ?_⟩
  rw [hothers _ halike, hreport.missing, hform]
  decide

end Rehoming
