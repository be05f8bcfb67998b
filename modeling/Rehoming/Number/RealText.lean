import Rehoming.Number.Natural
/-!
# Texts of real numbers

The texts that write a real number, an infinity or a NaN: an optional sign, then one of
the words `inf`, `infinity` and `nan` in any case, or decimal digits with at most one
point among them and an optional exponent.  There is at least one digit, on either side of
the point, and an exponent has at least one digit.
-/

namespace Rehoming.Number

/-- What a text of a real number stands for. -/
inductive Reading where
  | nan
  | infinite (negative : Bool)
  | decimal (negative : Bool) (digits : Nat) (exponent : Int)
  deriving DecidableEq, Repr

/-- The digits at the front of a list, and the rest. -/
def spanDigits (cs : List Char) : List Char × List Char :=
  cs.span fun c => (digit? c).isSome

/-- The sign at the front of a list, and the rest. -/
def takeSign : List Char → Bool × List Char
  | '-' :: r => (true, r)
  | '+' :: r => (false, r)
  | cs => (false, cs)

/-- The exponent a text ends with: nothing at all, or a letter `e` with a whole number. -/
def exponent? : List Char → Option Int
  | [] => some 0
  | c :: r =>
    if c = 'e' ∨ c = 'E' then
      let (negative, r) := takeSign r
      (digits? r).map fun n => if negative then -(n : Int) else n
    else none

/-- The value of digits, a point and an exponent. -/
def decimal? (negative : Bool) (cs : List Char) : Option Reading :=
  let (whole, r) := spanDigits cs
  let (fraction, r) := match r with
    | '.' :: r => spanDigits r
    | r => ([], r)
  (digits? (whole ++ fraction)).bind fun n =>
    (exponent? r).map fun e => .decimal negative n (e - fraction.length)

/-- What a text of a real number stands for; `none` for any other text. -/
def reading? (s : String) : Option Reading :=
  let (negative, cs) := takeSign s.toList
  let word := cs.map Char.toLower
  if word = "nan".toList then some .nan
  else if word = "inf".toList ∨ word = "infinity".toList then some (.infinite negative)
  else decimal? negative cs

end Rehoming.Number
