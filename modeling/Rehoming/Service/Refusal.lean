import Rehoming.Access
import Rehoming.Reference.Update
import Rehoming.Store.Directory
import Rehoming.Store.Error
/-!
# Refusals

Why the service refuses to do something, in words for the caller and as a coarse kind for
programs.
-/

namespace Rehoming

/-- What an operation was meant for. -/
inductive Target where
  | application (id : ApplicationId)
  | rescue (id : RescueId)
  | allRescues
  deriving DecidableEq, Repr

namespace Target

/-- One rescue, or all of them. -/
def ofRescue : Option RescueId → Target
  | some id => rescue id
  | none => allRescues

/-- The written form. -/
def label : Target → String
  | application id => "application '" ++ id.text ++ "'"
  | rescue id => "rescue '" ++ id.text ++ "'"
  | allRescues => "all rescues"

end Target

/-- The kinds of refusals. -/
inductive RefusalKind where
  | notFound
  | conflict
  | accessDenied
  | validationFailed
  | storeFailure
  deriving DecidableEq, Repr

namespace RefusalKind

/-- The written form. -/
def label : RefusalKind → String
  | notFound => "not_found"
  | conflict => "conflict"
  | accessDenied => "access_denied"
  | validationFailed => "validation_failed"
  | storeFailure => "store_failure"

end RefusalKind

/-- Why the service refuses. -/
inductive Refusal where
  | userNotFound (id : UserId)
  | petNotFound (id : PetId)
  | applicationNotFound (id : ApplicationId)
  | petUnavailable (id : PetId) (status : PetStatus)
  | duplicateActiveApplication (user : UserId) (pet : PetId)
  | invalidTransition (refused : TransitionRefused)
  | alreadyProcessed (status : Status)
  | accessDenied (operation : Operation) (target : Target)
  | answersRefused (fields : List FieldError)
  | referenceMissing
  | referenceMalformed (id : String)
  | invalidInput (fields : List FieldError)
  | store (error : StoreError)
  | ledger (error : LedgerError)
  deriving DecidableEq, Repr

namespace Refusal

/-- The kind of a refusal. -/
def kind : Refusal → RefusalKind
  | userNotFound _ | petNotFound _ | applicationNotFound _ => .notFound
  | petUnavailable .. | duplicateActiveApplication .. | invalidTransition _ | alreadyProcessed _ =>
    .conflict
  | accessDenied .. => .accessDenied
  | answersRefused _ | referenceMissing | referenceMalformed _ | invalidInput _ => .validationFailed
  | store _ | ledger _ => .storeFailure

/-- The fields that were refused. -/
def fields : Refusal → List FieldError
  | answersRefused fields | invalidInput fields => fields
  | _ => []

/-- The words for the caller. -/
def message : Refusal → String
  | userNotFound id => "user '" ++ id.text ++ "' not found"
  | petNotFound id => "pet '" ++ id.text ++ "' not found"
  | applicationNotFound id => "application '" ++ id.text ++ "' not found"
  | petUnavailable id status =>
    "pet '" ++ id.text ++ "' is not available for adoption (status: " ++ status.label ++ ")"
  | duplicateActiveApplication user pet =>
    "user '" ++ user.text ++ "' already has an active application for pet '" ++ pet.text ++ "'"
  | invalidTransition refused => refused.message
  | alreadyProcessed status => "cannot update application with status \"" ++ status.label ++ "\""
  | accessDenied operation target => "access denied: " ++ operation.label ++ " on " ++ target.label
  | answersRefused fields => "answer validation failed: " ++ FieldError.names fields
  | referenceMissing => SlotError.missing.message
  | referenceMalformed id => (SlotError.malformed id).message
  | invalidInput fields => "invalid input: " ++ FieldError.names fields
  | store error => error.message
  | ledger error => error.message

/-- The refusal of an update that means no slot. -/
def ofSlotError : SlotError → Refusal
  | .missing => referenceMissing
  | .malformed id => referenceMalformed id
  | .outOfRange field index maxSlots =>
    invalidInput
      [⟨field, "Reference slot " ++ toString index ++ " is out of range (at most " ++ toString maxSlots
        ++ " slots)", FieldError.rangeCode⟩]

end Refusal

end Rehoming
