import Rehoming.Answer.Basic
import Rehoming.Contact
import Rehoming.FieldError
import Rehoming.Ids
import Rehoming.Number.RealText
/-!
# Questions

The questions of the adoption form, and when an answer to one is accepted.  Core questions
are asked by every rescue, the others by the rescue they name; a question that is switched
off is asked by none.
-/

namespace Rehoming

/-- The part of the form a question belongs to. -/
inductive Category where
  | personalInformation
  | householdInformation
  | petOwnershipExperience
  | lifestyleCompatibility
  | petCareCommitment
  | referencesVerification
  | finalAcknowledgments
  deriving DecidableEq, Repr

namespace Category

/-- Every part of the form, in the order of the form. -/
def all : List Category :=
  [personalInformation, householdInformation, petOwnershipExperience, lifestyleCompatibility,
   petCareCommitment, referencesVerification, finalAcknowledgments]

/-- The place in the form. -/
def rank : Category → Nat
  | personalInformation => 0
  | householdInformation => 1
  | petOwnershipExperience => 2
  | lifestyleCompatibility => 3
  | petCareCommitment => 4
  | referencesVerification => 5
  | finalAcknowledgments => 6

/-- The written form. -/
def label : Category → String
  | personalInformation => "personal_information"
  | householdInformation => "household_information"
  | petOwnershipExperience => "pet_ownership_experience"
  | lifestyleCompatibility => "lifestyle_compatibility"
  | petCareCommitment => "pet_care_commitment"
  | referencesVerification => "references_verification"
  | finalAcknowledgments => "final_acknowledgments"

end Category

/-- The kind of answer a question asks for. -/
inductive QuestionKind where
  | text
  | email
  | phone
  | number
  | boolean
  | select
  | multiSelect
  | address
  | date
  | file
  deriving DecidableEq, Repr

namespace QuestionKind

/-- Every kind. -/
def all : List QuestionKind :=
  [text, email, phone, number, boolean, select, multiSelect, address, date, file]

/-- The written form. -/
def label : QuestionKind → String
  | text => "text"
  | email => "email"
  | phone => "phone"
  | number => "number"
  | boolean => "boolean"
  | select => "select"
  | multiSelect => "multi_select"
  | address => "address"
  | date => "date"
  | file => "file"

end QuestionKind

/-- Who asks a question. -/
inductive Scope where
  | core
  | rescueSpecific
  deriving DecidableEq, Repr

namespace Scope

/-- Every scope. -/
def all : List Scope := [core, rescueSpecific]

/-- The written form. -/
def label : Scope → String
  | core => "core"
  | rescueSpecific => "rescue_specific"

end Scope

/-- A question of the form. -/
structure Question where
  questionId : String
  rescueId : Option RescueId
  key : String
  scope : Scope
  category : Category
  kind : QuestionKind
  text : String
  options : List String
  displayOrder : Nat
  isEnabled : Bool
  isRequired : Bool
  deriving DecidableEq, Repr

/-- Why an answer is refused. -/
inductive AnswerIssue where
  | required
  | invalidEmail
  | invalidPhone
  | invalidNumber
  | invalidOption
  | invalidOptions
  deriving DecidableEq, Repr

namespace AnswerIssue

/-- The words for the applicant. -/
def message : AnswerIssue → String
  | required => "This question is required"
  | invalidEmail => "Please enter a valid email address"
  | invalidPhone => "Please enter a valid phone number"
  | invalidNumber => "Please enter a valid number"
  | invalidOption => "Please select a valid option"
  | invalidOptions => "Some selected options are invalid"

/-- The code for programs. -/
def code : AnswerIssue → String
  | required => FieldError.missingCode
  | invalidEmail => "INVALID_EMAIL_FORMAT"
  | invalidPhone => "INVALID_PHONE_FORMAT"
  | invalidNumber => "INVALID_NUMBER"
  | invalidOption => FieldError.optionCode
  | invalidOptions => "INVALID_OPTIONS"

/-- The issue as the fault of a field. -/
def fieldError (field : String) (issue : AnswerIssue) : FieldError :=
  ⟨field, issue.message, issue.code⟩

end AnswerIssue

namespace Question

/-- Whether every rescue asks the question. -/
def isCore (q : Question) : Bool :=
  q.scope == .core && q.rescueId.isNone

/-- Whether a rescue asks the question. -/
def appliesTo (q : Question) (rescue : RescueId) : Bool :=
  q.isEnabled && match q.scope with
    | .core => q.rescueId.isNone
    | .rescueSpecific => q.rescueId == some rescue

/-- What is wrong with an answer that is not blank. -/
def issueOf (q : Question) (a : Answer) : Option AnswerIssue :=
  match q.kind with
  | .email => if a.asText.any Contact.isEmail then none else some .invalidEmail
  | .phone => if a.asText.any Contact.isPhone then none else some .invalidPhone
  | .number =>
    match a with
    | .number x => if x.isFinite then none else some .invalidNumber
    | .text s => if (Number.reading? (Text.trim s)).isSome then none else some .invalidNumber
    | _ => some .invalidNumber
  | .select =>
    if q.options.isEmpty || a.asText.any q.options.contains then none else some .invalidOption
  | .multiSelect =>
    if q.options.isEmpty then none
    else match a with
      | .choices l => if l.all q.options.contains then none else some .invalidOptions
      | _ => some .invalidOptions
  | _ => none

/-- What is wrong with an answer, or with its absence. -/
def issue (q : Question) : Option Answer → Option AnswerIssue
  | none => if q.isRequired then some .required else none
  | some a =>
    if a.isBlank then (if q.isRequired then some .required else none) else q.issueOf a

end Question

end Rehoming
