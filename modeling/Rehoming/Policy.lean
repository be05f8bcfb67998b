/-!
# Policy

The limits and defaults that the workflow runs under.
-/

namespace Rehoming

/-- The limits and defaults of the workflow. -/
structure Policy where
  /-- For how many days a submitted application stays open. -/
  ttlDays : Nat := 30
  maxReferences : Nat := 5
  /-- Up to how many slots the staff may let the list of references grow. -/
  maxReferenceSlots : Nat := 10
  defaultPageSize : Nat := 20
  maxPageSize : Nat := 100
  /-- How often a write that came too late is tried once more. -/
  transitionRetries : Nat := 2
  deriving DecidableEq, Repr

end Rehoming
