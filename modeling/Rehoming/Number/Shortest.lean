import Rehoming.Number.Double
/-!
# Doubles in decimal

The decimal digits of a double: the fewest significant digits that read back as the same
double, and the digits after the point when their number is fixed.
-/

namespace Rehoming.Double

/-- `digits * 10 ^ exponent` as a ratio. -/
def decimalRatio (digits : Nat) (exponent : Int) : Nat × Nat :=
  if 0 ≤ exponent then (digits * Nat.pow 10 exponent.toNat, 1) else (digits, Nat.pow 10 (-exponent).toNat)

/-- Whether a decimal reads back as the word of a double. -/
def readsBack (magnitude digits : Nat) (exponent : Int) : Bool :=
  let (n, d) := decimalRatio digits exponent
  magnitudeOfRatio n d == magnitude

/-- The exponent of the highest power of ten that is not above `n / d`, found by stepping
down from an upper bound. -/
def decimalOrderFrom (n d : Nat) : Nat → Int → Int
  | 0, e => e
  | fuel + 1, e =>
    let (a, b) := decimalRatio 1 e
    if a * d ≤ n * b then e else decimalOrderFrom n d fuel (e - 1)

/-- The exponent of the highest power of ten that is not above `n / d`. -/
def decimalOrder (n d : Nat) : Int :=
  let guess := (binaryOrder n d + 1) * 30103 / 100000 + 1
  decimalOrderFrom n d 4 guess

/-- The neighbour of `n / d` on the grid of the multiples of `10 ^ e` that reads back as a
word, the nearer one if both do and the even one of two equally near. -/
def onGrid (magnitude n d : Nat) (e : Int) : Option Nat :=
  let (a, b) := decimalRatio 1 e
  let num := n * b
  let den := d * a
  let low := num / den
  let nearest := roundEven num den
  let other := if nearest = low then low + 1 else low
  if readsBack magnitude nearest e then some nearest
  else if readsBack magnitude other e then some other
  else none

/-- The first grid, from coarse to fine, with a multiple that reads back. -/
def shortestFrom (magnitude n d : Nat) : Nat → Int → Nat × Int
  | 0, e => (0, e)
  | fuel + 1, e =>
    match onGrid magnitude n d e with
    | some digits => (digits, e)
    | none => shortestFrom magnitude n d fuel (e - 1)

/-- The fewest digits, and the power of ten of the last one, that read back as a finite
number other than zero. -/
def shortest (x : Double) : Nat × Int :=
  let (n, d) := x.ratio
  shortestFrom x.magnitude n d 18 (decimalOrder n d)

/-- A text of zeros. -/
def zeros (n : Nat) : String :=
  String.ofList (List.replicate n '0')

/-- The text of some digits and the power of ten of the last one: positional from `0.00001`
to below `10 ^ 16`, and with an exponent elsewhere. -/
def layout (digits : Nat) (exponent : Int) : String :=
  let ds := toString digits
  let point := exponent + ds.length
  if 0 ≤ exponent ∧ point ≤ 16 then
    ds ++ zeros exponent.toNat ++ ".0"
  else if 0 < point ∧ point ≤ 16 then
    String.ofList (ds.toList.take point.toNat) ++ "." ++ String.ofList (ds.toList.drop point.toNat)
  else if -5 < point ∧ point ≤ 0 then
    "0." ++ zeros (-point).toNat ++ ds
  else
    let power := "e" ++ toString (point - 1)
    match ds.toList with
    | [_] => ds ++ power
    | first :: rest => String.ofList [first] ++ "." ++ String.ofList rest ++ power
    | [] => power

/-- The digits of a number without the zeros at its end, and how many those were. -/
def withoutTrailingZeros : Nat → Nat → Int → Nat × Int
  | 0, n, e => (n, e)
  | fuel + 1, n, e =>
    if n ≠ 0 ∧ n % 10 = 0 then withoutTrailingZeros fuel (n / 10) (e + 1) else (n, e)

/-- The shortest text that reads back as a finite number, always with a point or an
exponent. -/
def text (x : Double) : String :=
  let body :=
    if x.isZero then "0.0"
    else
      let (digits, e) := x.shortest
      let (digits, e) := withoutTrailingZeros 20 digits e
      layout digits e
  if x.isNegative then "-" ++ body else body

/-- The text of a finite number that is not negative with two digits after the point, a tie
going to the even one. -/
def fixed2 (x : Double) : String :=
  let (n, d) := x.ratio
  let hundredths := roundEven (100 * n) d
  let cents := toString (hundredths % 100)
  toString (hundredths / 100) ++ "." ++ (if cents.length = 1 then "0" ++ cents else cents)

end Rehoming.Double
