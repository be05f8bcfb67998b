/-!
# Identifiers

The names of applications, users, pets and rescues.  Each kind is a type of its own, so that
one is never taken for another; identifiers are compared as texts.
-/

namespace Rehoming

/-- The name of an adoption application. -/
structure ApplicationId where
  text : String
  deriving DecidableEq, Repr, Inhabited

/-- The name of an applicant or of a member of staff. -/
structure UserId where
  text : String
  deriving DecidableEq, Repr, Inhabited

instance : LT UserId := ⟨fun a b => a.text < b.text⟩

instance (a b : UserId) : Decidable (a < b) :=
  inferInstanceAs (Decidable (a.text < b.text))

/-- The name of a pet. -/
structure PetId where
  text : String
  deriving DecidableEq, Repr, Inhabited

/-- The name of a rescue. -/
structure RescueId where
  text : String
  deriving DecidableEq, Repr, Inhabited

end Rehoming
