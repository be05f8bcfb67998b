import Rehoming.Submission
/-!
# Edits

What an owner changes on an application that still waits for a decision.  Fields that are
not given stay as they are; references change in their contact details only.
-/

namespace Rehoming

/-- The fields an owner may change. -/
structure Edit where
  answers : Option Answers
  references : Option (List ReferenceInput)
  priority : Option Priority
  notes : Option String
  tags : Option TextSet
  interviewNotes : Option String
  homeVisitNotes : Option String
  score : Option Nat

namespace Edit

/-- The highest score. -/
def maxScore : Nat := 100

/-- The faults of an edit. -/
def faults (e : Edit) (maxReferences : Nat) : List FieldError :=
  (match e.score with
    | none => []
    | some score =>
      if score ≤ maxScore then []
      else [⟨"score", "score must be between 0 and " ++ toString maxScore ++ ", got " ++ toString score,
        FieldError.rangeCode⟩])
  ++ (match e.references with
    | none => []
    | some rs => ReferenceInput.absenceFaults rs ++ ReferenceInput.listFaults maxReferences rs)

/-- Whether an edit gives no field. -/
def isEmpty (e : Edit) : Bool :=
  e.answers.isNone && e.references.isNone && e.priority.isNone && e.notes.isNone && e.tags.isNone
    && e.interviewNotes.isNone && e.homeVisitNotes.isNone && e.score.isNone

/-- The application after an edit. -/
def applyTo (e : Edit) (a : Application) : Application :=
  { a with
    answers := match e.answers with
      | some answers => if Answer.sameMembers a.answers answers then a.answers else answers
      | none => a.answers
    references := match e.references with
      | some inputs => Reference.mergeContacts a.references inputs
      | none => a.references
    priority := e.priority.getD a.priority
    notes := e.notes.or a.notes
    tags := e.tags.getD a.tags
    interviewNotes := e.interviewNotes.or a.interviewNotes
    homeVisitNotes := e.homeVisitNotes.or a.homeVisitNotes
    score := (e.score.filter (· < 256)).or a.score }

/-- The names of the fields that an edit changes.  Texts and the score count as changed
whenever they are given. -/
def changes (e : Edit) (a : Application) : List String :=
  (if e.answers.any fun answers => !Answer.sameMembers a.answers answers then ["answers"] else [])
  ++ (if e.references.any fun inputs => Reference.mergeContacts a.references inputs != a.references then
      ["references"] else [])
  ++ (if e.priority.any (· != a.priority) then ["priority"] else [])
  ++ (if e.notes.isSome then ["notes"] else [])
  ++ (if e.tags.any (· != a.tags) then ["tags"] else [])
  ++ (if e.interviewNotes.isSome then ["interview_notes"] else [])
  ++ (if e.homeVisitNotes.isSome then ["home_visit_notes"] else [])
  ++ (if (e.score.filter (· < 256)).isSome then ["score"] else [])

end Edit

end Rehoming
