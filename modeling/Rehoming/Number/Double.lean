/-!
# Double-precision numbers

The numbers of the IEEE 754 format binary64, as 64-bit words, with the few operations the
workflow needs of them.  All arithmetic is exact and rounds once, at the end, to the
nearest double, a tie going to the even one: `ofRatio` is that rounding.
-/

namespace Rehoming

/-- A double-precision number: a sign bit, eleven bits of exponent and 52 bits of
fraction. -/
structure Double where
  bits : UInt64
  deriving DecidableEq, Repr, Inhabited

namespace Double

/-- The word of the positive infinity; the words below it are the numbers from zero up. -/
def infinityBits : Nat := 0x7FF <<< 52

/-- The sign bit of a word. -/
def signBit : Nat := 1 <<< 63

/-- The lowest bit of the exponent; a normal number's fraction has it as a 53rd bit. -/
def hiddenBit : Nat := 1 <<< 52

/-- The number of a sign and a word without sign. -/
def ofMagnitude (negative : Bool) (magnitude : Nat) : Double :=
  ⟨UInt64.ofNat (if negative then signBit + magnitude else magnitude)⟩

/-- Whether the sign bit is set. -/
def isNegative (x : Double) : Bool :=
  signBit ≤ x.bits.toNat

/-- The word without its sign bit. -/
def magnitude (x : Double) : Nat :=
  x.bits.toNat % signBit

/-- Neither an infinity nor a NaN. -/
def isFinite (x : Double) : Bool :=
  x.magnitude < infinityBits

/-- An infinity, of either sign. -/
def isInfinite (x : Double) : Bool :=
  x.magnitude == infinityBits

/-- Zero, of either sign. -/
def isZero (x : Double) : Bool :=
  x.magnitude == 0

/-- The same value: zeros of either sign are the same, and a NaN is not even the same as
itself. -/
def sameValue (x y : Double) : Bool :=
  (x.isZero && y.isZero) || (x.bits == y.bits && x.magnitude ≤ infinityBits)

/-- The natural number `m` and the exponent `q` that make a finite number `m * 2 ^ q`, up to
its sign. -/
def parts (x : Double) : Nat × Int :=
  let e : Nat := x.magnitude / hiddenBit
  let f : Nat := x.magnitude % hiddenBit
  if e = 0 then (f, -1074) else (hiddenBit + f, (e : Int) - 1075)

/-- `n / d` rounded to a natural number, a tie going to the even one. -/
def roundEven (n d : Nat) : Nat :=
  let q := n / d
  let r := 2 * (n % d)
  if r < d then q else if d < r then q + 1 else q + q % 2

/-- `n / d` rounded to a natural number, a tie going up. -/
def roundUp (n d : Nat) : Nat :=
  (2 * n + d) / (2 * d)

/-- A ratio times a power of two. -/
def shift (n d : Nat) (q : Int) : Nat × Nat :=
  if 0 ≤ q then (n <<< q.toNat, d) else (n, d <<< (-q).toNat)

/-- The exponent of the highest power of two that is not above `n / d`. -/
def binaryOrder (n d : Nat) : Int :=
  let e : Int := (n.log2 : Int) - d.log2
  let (n', d') := shift n d (-e)
  if d' ≤ n' then e else e - 1

/-- The word of the double nearest to `n / d`; a ratio past the largest double gives the
word of infinity. -/
def magnitudeOfRatio (n d : Nat) : Nat :=
  if n = 0 then 0
  else
    let q := max (binaryOrder n d - 52) (-1074)
    let (n', d') := shift n d (-q)
    let m := roundEven n' d'
    if m < hiddenBit then m
    else min infinityBits ((q + 1075).toNat * hiddenBit + (m - hiddenBit))

/-- The double nearest to `n / d`, with a sign. -/
def ofRatio (negative : Bool) (n d : Nat) : Double :=
  ofMagnitude negative (magnitudeOfRatio n d)

/-- The double nearest to an integer. -/
def ofInt (i : Int) : Double :=
  ofRatio (decide (i < 0)) i.natAbs 1

/-- The double nearest to a natural number. -/
def ofNat (n : Nat) : Double :=
  ofRatio false n 1

/-- The absolute value of a finite number as a ratio of natural numbers. -/
def ratio (x : Double) : Nat × Nat :=
  let (m, q) := x.parts
  shift m 1 q

/-- The product of two finite numbers. -/
def mul (x y : Double) : Double :=
  let (a, b) := x.ratio
  let (c, d) := y.ratio
  ofRatio (x.isNegative != y.isNegative) (a * c) (b * d)

/-- The quotient of two finite numbers, the second of them not zero. -/
def div (x y : Double) : Double :=
  let (a, b) := x.ratio
  let (c, d) := y.ratio
  ofRatio (x.isNegative != y.isNegative) (a * d) (b * c)

/-- The number with its sign turned. -/
def neg (x : Double) : Double :=
  ofMagnitude (!x.isNegative) x.magnitude

/-- The natural number nearest to a finite number that is not negative, a tie going up. -/
def round (x : Double) : Nat :=
  let (n, d) := x.ratio
  roundUp n d

/-- What share `part` is of `total`, in units of `1 / scale`, rounded to a natural number.
Each of the quotient and the product is rounded to a double on the way. -/
def share (scale part total : Nat) : Nat :=
  (((ofNat part).div (ofNat total)).mul (ofNat scale)).round

end Double

end Rehoming
