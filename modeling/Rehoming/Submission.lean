import Rehoming.Application.Basic
import Rehoming.Contact
/-!
# Submissions

What an applicant sends in to apply for a pet, and the checks on it that need nothing else
to be known.
-/

namespace Rehoming

/-- A request for a new application. -/
structure Submission where
  petId : PetId
  answers : Answers
  references : List ReferenceInput
  priority : Option Priority
  notes : Option String
  tags : TextSet

namespace ReferenceInput

/-- The name of a field of the reference at a position. -/
def fieldName (index : Nat) (name : String) : String :=
  "references[" ++ toString index ++ "]." ++ name

/-- The faults of the reference at a position. -/
def faults (index : Nat) (r : ReferenceInput) : List FieldError :=
  (if Text.isBlank r.name then
    [⟨fieldName index "name", "Reference name is required", FieldError.missingCode⟩] else [])
  ++ (if Text.isBlank r.relationship then
    [⟨fieldName index "relationship", "Reference relationship is required", FieldError.missingCode⟩]
    else [])
  ++ (if Contact.isPhone r.phone then []
    else [⟨fieldName index "phone", "Please enter a valid phone number", "INVALID_PHONE_FORMAT"⟩])
  ++ (match r.email with
    | none => []
    | some email =>
      if Text.isBlank email || Contact.isEmail email then []
      else [⟨fieldName index "email", "Please enter a valid email address", "INVALID_EMAIL_FORMAT"⟩])

/-- The faults of references from a position on. -/
def faultsFrom (index : Nat) : List ReferenceInput → List FieldError
  | [] => []
  | r :: rest => r.faults index ++ faultsFrom (index + 1) rest

/-- The faults of a list of references, of which there may be `maxReferences`. -/
def listFaults (maxReferences : Nat) (rs : List ReferenceInput) : List FieldError :=
  (if maxReferences < rs.length then
    [⟨"references", "No more than " ++ toString maxReferences ++ " references are allowed",
      "TOO_MANY_REFERENCES"⟩] else [])
  ++ faultsFrom 0 rs

/-- The fault of an empty list of references. -/
def absenceFaults (rs : List ReferenceInput) : List FieldError :=
  if rs.isEmpty then
    [⟨"references", "At least one reference is required", FieldError.missingCode⟩] else []

end ReferenceInput

namespace Submission

/-- The faults of a submission. -/
def faults (s : Submission) (maxReferences : Nat) : List FieldError :=
  (if Text.isBlank s.petId.text then
    [⟨"pet_id", "pet_id is required", FieldError.missingCode⟩] else [])
  ++ ReferenceInput.absenceFaults s.references
  ++ ReferenceInput.listFaults maxReferences s.references

/-- The application that a submission makes for a pet of a rescue. -/
def application (s : Submission) (id : ApplicationId) (user : UserId) (pet : PetId)
    (rescue : RescueId) (now : Time.Instant) (ttlDays : Nat) : Application :=
  Application.stamp
    { applicationId := id
      userId := user
      petId := pet
      rescueId := rescue
      status := .submitted
      priority := s.priority.getD .normal
      stage := .pending
      answers := s.answers
      references := Reference.seed s.references
      documents := []
      notes := s.notes.filter fun notes => !Text.isBlank notes
      interviewNotes := none
      homeVisitNotes := none
      rejectionReason := none
      score := none
      tags := s.tags
      createdAt := now
      updatedAt := now
      version := 0
      submittedAt := none
      decisionAt := none
      actionedBy := none
      actionedAt := none
      expiresAt := none
      followUpDate := none
      deletedAt := none }
    now ttlDays

end Submission

end Rehoming
