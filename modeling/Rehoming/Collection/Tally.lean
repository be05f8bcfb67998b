/-!
# Tallies

How often each of some keys has been counted: a list of entries in the order of their keys,
every key once, and none that has not been counted.
-/

namespace Rehoming.Tally

variable {κ : Type} [LT κ] [DecidableLT κ] [DecidableEq κ]

/-- The entries with a key counted once more. -/
def count (k : κ) : List (κ × Nat) → List (κ × Nat)
  | [] => [(k, 1)]
  | e :: r =>
    if k < e.1 then (k, 1) :: e :: r
    else if k = e.1 then (k, e.2 + 1) :: r
    else e :: count k r

end Rehoming.Tally
