import Rehoming.Question.Basic
/-!
# Answer reports

The outcome of checking answers against questions: the refused answers in the order of the
questions, the keys of required questions left blank, and the share of the required
questions that are not.
-/

namespace Rehoming

/-- The outcome of checking answers. -/
structure AnswerReport where
  isValid : Bool
  errors : List FieldError
  completionPercentage : Nat
  missing : List String
  deriving DecidableEq, Repr

namespace AnswerReport

/-- What is wrong with the answer to a question. -/
def issueIn (answers : Answers) (q : Question) : Option AnswerIssue :=
  q.issue (answers.at? q.key)

/-- The share of the required questions that are answered, as a rounded percentage. -/
def completion (required missing : Nat) : Nat :=
  if required = 0 then 100 else Double.share 100 (required - missing) required

/-- The report on the answers to some questions. -/
def of (questions : List Question) (answers : Answers) : AnswerReport :=
  let errors := questions.filterMap fun q =>
    (issueIn answers q).map fun issue => issue.fieldError q.key
  let missing := questions.filterMap fun q =>
    if issueIn answers q = some .required then some q.key else none
  { isValid := errors.isEmpty
    errors
    completionPercentage := completion (questions.countP (·.isRequired)) missing.length
    missing }

end AnswerReport

end Rehoming
