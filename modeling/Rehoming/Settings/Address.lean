import Rehoming.Number.Natural
import Rehoming.Text.Substring
/-!
# Network addresses

The written forms of Internet addresses.  An address of version 4 has four decimal octets
without leading zeros.  An address of version 6 has eight groups of up to four hexadecimal
digits; the last two may be written as an address of version 4, and two colons stand, at most
once, for one or more groups that are zero.
-/

namespace Rehoming

/-- The four octets of an address of version 4. -/
structure Address.Octets where
  a : UInt8
  b : UInt8
  c : UInt8
  d : UInt8
  deriving DecidableEq, Repr

/-- The eight groups of an address of version 6. -/
structure Address.Groups where
  groups : List UInt16
  length_eq : groups.length = 8
  deriving DecidableEq, Repr

/-- An Internet address. -/
inductive Address where
  | v4 (octets : Address.Octets)
  | v6 (groups : Address.Groups)
  deriving DecidableEq, Repr

namespace Address

/-! ### Reading -/

/-- An octet: a number below 256 of at most three digits, without a leading zero. -/
def octet? (cs : List Char) : Option UInt8 :=
  if cs.length > 1 ∧ cs.head? = some '0' then none
  else ((Number.digits? cs).filter (· < 256)).map UInt8.ofNat

/-- Four octets with points between them. -/
def octets? (cs : List Char) : Option Octets :=
  match Text.splitChars '.' cs with
  | [a, b, c, d] => do return ⟨← octet? a, ← octet? b, ← octet? c, ← octet? d⟩
  | _ => none

/-- The value of a hexadecimal digit. -/
def hexDigit? (c : Char) : Option Nat :=
  if '0' ≤ c ∧ c ≤ '9' then some (c.toNat - '0'.toNat)
  else if 'a' ≤ c ∧ c ≤ 'f' then some (c.toNat - 'a'.toNat + 10)
  else if 'A' ≤ c ∧ c ≤ 'F' then some (c.toNat - 'A'.toNat + 10)
  else none

/-- A group: one to four hexadecimal digits. -/
def group? (cs : List Char) : Option UInt16 :=
  if cs.isEmpty ∨ cs.length > 4 then none
  else (cs.foldlM (fun n c => (hexDigit? c).map (16 * n + ·)) 0).map UInt16.ofNat

/-- The two groups that four octets fill. -/
def Octets.groups (o : Octets) : List UInt16 :=
  [o.a.toUInt16 <<< 8 ||| o.b.toUInt16, o.c.toUInt16 <<< 8 ||| o.d.toUInt16]

/-- Groups with colons between them; the last two may be written as four octets. -/
def pieces? : List (List Char) → Option (List UInt16)
  | [] => some []
  | [p] => ((octets? p).map Octets.groups).or ((group? p).map ([·]))
  | p :: r => do return (← group? p) :: (← pieces? r)

/-- Some groups with colons between them, or none at all. -/
def run? (cs : List Char) : Option (List UInt16) :=
  if cs.isEmpty then some [] else pieces? (Text.splitChars ':' cs)

/-- Groups that may not end in four octets. -/
def plainRun? (cs : List Char) : Option (List UInt16) :=
  if cs.isEmpty then some [] else (Text.splitChars ':' cs).mapM group?

/-- What stands before the first two colons and what stands after them, if there are any. -/
def cutAtGap : List Char → List Char × Option (List Char)
  | [] => ([], none)
  | c :: r =>
    match c, r with
    | ':', ':' :: after => ([], some after)
    | _, _ => let (before, after) := cutAtGap r; (c :: before, after)

/-- As many zero groups as are wanting between two runs: at least one. -/
def filled (before after : List UInt16) : Option (List UInt16) :=
  if before.length + after.length < 8 then
    some (before ++ List.replicate (8 - before.length - after.length) 0 ++ after)
  else none

/-- An address of version 6. -/
def groups? (cs : List Char) : Option Groups := do
  let groups ← match cutAtGap cs with
    | (_, none) => run? cs
    | (before, some after) => filled (← plainRun? before) (← run? after)
  if h : groups.length = 8 then some ⟨groups, h⟩ else none

/-- Reads an address. -/
def ofText? (s : String) : Option Address :=
  ((octets? s.toList).map v4).or ((groups? s.toList).map v6)

/-! ### Writing -/

/-- Four octets with points between them. -/
def Octets.text (o : Octets) : String :=
  Text.join "." ([o.a, o.b, o.c, o.d].map fun octet => toString octet.toNat)

/-- A group with as few digits as possible. -/
def groupText (g : UInt16) : String :=
  String.ofList (Nat.toDigits 16 g.toNat)

/-- The length of the run of zeros at the front of a list. -/
def zeros (groups : List UInt16) : Nat :=
  (groups.takeWhile (· = 0)).length

/-- Where the first of the longest runs of zeros starts, and how long it is, if the list
starts at position `i`. -/
def longestZeros (i : Nat) : List UInt16 → Nat × Nat
  | [] => (i, 0)
  | g :: r =>
    let here := zeros (g :: r)
    let later := longestZeros (i + 1) r
    if here < later.2 then later else (i, here)

/-- The groups with colons between them. -/
def runText (groups : List UInt16) : String :=
  Text.join ":" (groups.map groupText)

/-- Eight groups.  An address of version 4 in disguise shows its octets; otherwise the longest
run of two or more zeros is left out. -/
def Groups.text (g : Groups) : String :=
  match g.groups with
  | [0, 0, 0, 0, 0, 0xFFFF, x, y] =>
    "::ffff:" ++ Octets.text ⟨(x >>> 8).toUInt8, x.toUInt8, (y >>> 8).toUInt8, y.toUInt8⟩
  | groups =>
    let (start, length) := longestZeros 0 groups
    if length < 2 then runText groups
    else runText (groups.take start) ++ "::" ++ runText (groups.drop (start + length))

/-- The written form of an address. -/
def text : Address → String
  | v4 octets => octets.text
  | v6 groups => groups.text

/-- The written form of an address with a port. -/
def socketText (address : Address) (port : UInt16) : String :=
  match address with
  | v4 octets => octets.text ++ ":" ++ toString port.toNat
  | v6 groups => "[" ++ groups.text ++ "]:" ++ toString port.toNat

/-- The address by which a machine speaks to itself. -/
def loopback : Address :=
  v4 ⟨127, 0, 0, 1⟩

end Address

end Rehoming
