/-!
# Offending fields

What is wrong with one field of a request, for the caller to read and for programs to branch
on.
-/

namespace Rehoming

/-- A field that was refused, with a message and a code. -/
structure FieldError where
  field : String
  message : String
  code : String
  deriving DecidableEq, Repr

namespace FieldError

/-- The code of a field that must be given. -/
def missingCode : String := "REQUIRED_FIELD_MISSING"

/-- The code of a number outside its range. -/
def rangeCode : String := "OUT_OF_RANGE"

/-- The code of a value that is not among those offered. -/
def optionCode : String := "INVALID_OPTION"

/-- The names of some fields, in a row. -/
def names : List FieldError → String
  | [] => ""
  | [e] => e.field
  | e :: r => e.field ++ ", " ++ names r

end FieldError

end Rehoming
