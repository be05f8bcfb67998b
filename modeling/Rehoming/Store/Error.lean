/-!
# Failures of the stores

What can go wrong when the store of applications, a directory, the timeline or the audit log
is asked for something.
-/

namespace Rehoming

/-- A failure of the store of applications or of a directory. -/
inductive StoreError where
  /-- There is a record of this name already. -/
  | conflict
  | uniqueViolation (constraint : String)
  /-- The record has been written since it was read.  Versions have no bound, as in records. -/
  | staleWrite (expected current : Nat)
  | notFound
  | unavailable (reason : String)
  deriving DecidableEq, Repr

namespace StoreError

/-- The words for the caller. -/
def message : StoreError → String
  | conflict => "record already exists"
  | uniqueViolation constraint => "unique constraint '" ++ constraint ++ "' violated"
  | staleWrite expected current =>
    "record changed underneath the write (read version " ++ toString expected ++ ", now "
      ++ toString current ++ ")"
  | notFound => "record not found"
  | unavailable reason => "repository unavailable: " ++ reason

/-- The constraint that an applicant has one active application for a pet at most. -/
def activeConstraint : String := "applications_active_user_pet_unique"

end StoreError

/-- A failure of the timeline or of the audit log. -/
inductive LedgerError where
  | unavailable (reason : String)
  deriving DecidableEq, Repr

namespace LedgerError

/-- The words for the caller. -/
def message : LedgerError → String
  | unavailable reason => "ledger unavailable: " ++ reason

end LedgerError

end Rehoming
