/-!
# Natural numbers in decimal

Reading a decimal numeral: one or more ASCII digits, leading zeros allowed.  A numeral of
a setting or of a query may also carry a plus sign, and counts only below a limit.
-/

namespace Rehoming.Number

/-- The value of an ASCII digit. -/
def digit? (c : Char) : Option Nat :=
  if '0' ≤ c ∧ c ≤ '9' then some (c.toNat - '0'.toNat) else none

/-- The number written by some digits after a number already read. -/
def digitsFrom (n : Nat) : List Char → Option Nat
  | [] => some n
  | c :: r => (digit? c).bind fun d => digitsFrom (10 * n + d) r

/-- The number written by one or more digits. -/
def digits? (cs : List Char) : Option Nat :=
  if cs.isEmpty then none else digitsFrom 0 cs

/-- The least number that takes more than `bits` bits. -/
def wordLimit (bits : Nat) : Nat :=
  1 <<< bits

/-- The number written by digits, with or without a plus sign, if it is below `limit`. -/
def numeral? (limit : Nat) (s : String) : Option Nat :=
  let digits := match s.toList with
    | '+' :: r => r
    | cs => cs
  (digits? digits).filter (· < limit)

end Rehoming.Number
