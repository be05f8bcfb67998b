import Rehoming.Json.Basic
import Rehoming.Number.Natural
/-!
# Reading JSON

The document of a text.  Reading never fails: where the text stops being JSON, the document
has a flaw.  Doubles are read as their first nineteen or twenty digits, scaled by a power
of ten, each of the three rounded to a double once.  Containers nest 127 deep at most; those
nested deeper are passed over.
-/

namespace Rehoming.Json

/-- The white space of JSON. -/
def isSpace (c : Char) : Bool :=
  c = ' ' || c = '\n' || c = '\t' || c = '\r'

/-- A list of characters without the white space at its front. -/
def skipSpace (cs : List Char) : List Char :=
  cs.dropWhile isSpace

/-- The value of a hexadecimal digit. -/
def hexDigit? (c : Char) : Option Nat :=
  if '0' ≤ c ∧ c ≤ '9' then some (c.toNat - '0'.toNat)
  else if 'a' ≤ c ∧ c ≤ 'f' then some (c.toNat - 'a'.toNat + 10)
  else if 'A' ≤ c ∧ c ≤ 'F' then some (c.toNat - 'A'.toNat + 10)
  else none

/-- The number of four hexadecimal digits. -/
def hex4? (a b c d : Char) : Option Nat := do
  let a ← hexDigit? a
  let b ← hexDigit? b
  let c ← hexDigit? c
  let d ← hexDigit? d
  return ((a * 16 + b) * 16 + c) * 16 + d

/-- The character of a one-letter escape. -/
def escape? (c : Char) : Option Nat :=
  if c = '"' || c = '\\' || c = '/' then some c.toNat
  else if c = 'b' then some 8
  else if c = 'f' then some 12
  else if c = 'n' then some 10
  else if c = 'r' then some 13
  else if c = 't' then some 9
  else none

/-- The code units of a string up to its closing quote, and what follows; surrogates stand
for themselves. -/
def stringUnits : List Char → Option (List Nat × List Char)
  | [] => none
  | '"' :: r => some ([], r)
  | '\\' :: 'u' :: a :: b :: c :: d :: r =>
    (hex4? a b c d).bind fun n => (stringUnits r).map fun (us, r) => (n :: us, r)
  | '\\' :: e :: r =>
    (escape? e).bind fun n => (stringUnits r).map fun (us, r) => (n :: us, r)
  | c :: r =>
    if c = '\\' || c.toNat < 0x20 then none
    else (stringUnits r).map fun (us, r) => (c.toNat :: us, r)

/-- The characters of code units, unless a surrogate stands alone. -/
def pairUp : List Nat → Option (List Char)
  | [] => some []
  | high :: low :: r =>
    if 0xD800 ≤ high ∧ high ≤ 0xDBFF ∧ 0xDC00 ≤ low ∧ low ≤ 0xDFFF then
      (pairUp r).map fun cs =>
        Char.ofNat (0x10000 + (high - 0xD800) * 0x400 + (low - 0xDC00)) :: cs
    else if 0xD800 ≤ high ∧ high ≤ 0xDFFF then none
    else (pairUp (low :: r)).map (Char.ofNat high :: ·)
  | [n] => if 0xD800 ≤ n ∧ n ≤ 0xDFFF then none else some [Char.ofNat n]

/-- The number of some digits after a number already read, as long as it fits into 64
bits; how many digits were taken; and the digits left over. -/
def absorb (n taken : Nat) : List Nat → Nat × Nat × List Nat
  | [] => (n, taken, [])
  | d :: r =>
    if 10 * n + d < Number.wordLimit 64 then absorb (10 * n + d) (taken + 1) r else (n, taken, d :: r)

/-- A number times a power of ten, each step rounded to a double; `none` past the largest
double. -/
def scale : Nat → Double → Int → Option Double
  | 0, x, _ => some x
  | fuel + 1, x, e =>
    if e.natAbs ≤ 308 then
      let power := Double.ofNat (Nat.pow 10 e.natAbs)
      if 0 ≤ e then
        let y := x.mul power
        if y.isFinite then some y else none
      else some (x.div power)
    else if x.isZero then some x
    else if 0 ≤ e then none
    else scale fuel (x.div (Double.ofNat (Nat.pow 10 308))) (e + 308)

/-- The digits at the front of a list, and the rest. -/
def digitRun : List Char → List Nat × List Char
  | [] => ([], [])
  | c :: r =>
    match Number.digit? c with
    | none => ([], c :: r)
    | some d => let (ds, r) := digitRun r; (d :: ds, r)

/-- The exponent at the front of a list, if there is one: `none` inside means that there is
none, and `none` outside that it is malformed. -/
def exponentPart (cs : List Char) : Option (Option Int × List Char) :=
  match cs with
  | c :: r =>
    if c = 'e' || c = 'E' then
      let (negative, r) := match r with
        | '+' :: r => (false, r)
        | '-' :: r => (true, r)
        | r => (false, r)
      match digitRun r with
      | ([], _) => none
      | (ds, r) =>
        let n : Nat := ds.foldl (fun n d => 10 * n + d) 0
        some (some (if negative then -(n : Int) else n), r)
    else some (none, cs)
  | [] => some (none, cs)

/-- The fraction at the front of a list, if there is one: `none` inside means that there is
none, and `none` outside that it is malformed. -/
def fractionPart (cs : List Char) : Option (Option (List Nat) × List Char) :=
  match cs with
  | '.' :: r =>
    match digitRun r with
    | ([], _) => none
    | (ds, r) => some (some ds, r)
  | cs => some (none, cs)

/-- A double, or the flaw of one that is too large. -/
def ofScaled (negative : Bool) (significand : Nat) (exponent : Int) : Json :=
  match scale 8 (Double.ofNat significand) exponent with
  | some x => .real (if negative then x.neg else x)
  | none => .flawed .unfit

/-- The number of its parts. -/
def numberOf (negative : Bool) (whole : List Nat) (fraction : Option (List Nat)) (exponent : Option Int) :
    Json :=
  let (n, _, left) := absorb 0 0 whole
  match fraction, exponent with
  | none, none =>
    if left.isEmpty then
      if !negative then .int n
      else if 0 < n ∧ n ≤ Number.wordLimit 63 then .int (-n)
      else .real (Double.ofRatio true n 1)
    else ofScaled negative n left.length
  | none, some e => ofScaled negative n (left.length + e)
  | some ds, e =>
    let (n, taken, _) := absorb n 0 ds
    ofScaled negative n (left.length - taken + e.getD 0)

/-- A number without its sign. -/
def readUnsigned (negative : Bool) (cs : List Char) : Json × Option (List Char) :=
  let broken : Json × Option (List Char) := (.flawed .broken, none)
  match digitRun cs with
  | ([], _) => broken
  | (0 :: _ :: _, _) => broken
  | (whole, r) =>
    match fractionPart r with
    | none => broken
    | some (fraction, r) =>
      match exponentPart r with
      | none => broken
      | some (exponent, r) => (numberOf negative whole fraction exponent, some r)

/-- A string after its opening quote. -/
def readString (cs : List Char) : Json × Option (List Char) :=
  match stringUnits cs with
  | none => (.flawed .broken, none)
  | some (units, r) =>
    match pairUp units with
    | none => (.flawed .unfit, some r)
    | some s => (.str (String.ofList s), some r)

/-- What follows a word at the front of a list. -/
def afterWord? (word : String) (cs : List Char) : Option (List Char) :=
  if word.toList.isPrefixOf cs then some (cs.drop word.length) else none

/-- The document of a word. -/
def readWord (word : String) (j : Json) (cs : List Char) : Json × Option (List Char) :=
  match afterWord? word cs with
  | some r => (j, some r)
  | none => (.flawed .broken, none)

/-- The value at the front of a list that is no container, and what follows it unless the text
broke off. -/
def readScalar : List Char → Json × Option (List Char)
  | '"' :: r => readString r
  | '-' :: r => readUnsigned true r
  | 'n' :: r => readWord "ull" .null r
  | 't' :: r => readWord "rue" (.bool true) r
  | 'f' :: r => readWord "alse" (.bool false) r
  | r => readUnsigned false r

/-- What comes next in a text that is passed over. -/
inductive Ahead where
  | value
  | key
  /-- What follows a value. -/
  | mark

/-- What follows the value that is passed over at the front of a list, unless the text breaks
off.  The containers that the place lies in are given from the inside out, `true` for an
object.  Every step takes a character, so that the fuel of one step for each is enough. -/
def passOver : Nat → Ahead → List Bool → List Char → Option (List Char)
  | 0, _, _, _ => none
  | _ + 1, .mark, [], cs => some cs
  | fuel + 1, .mark, isObject :: outer, cs =>
    match skipSpace cs, isObject with
    | ']' :: r, false | '\x7d' :: r, true => passOver fuel .mark outer r
    | ',' :: r, false => passOver fuel .value (false :: outer) r
    | ',' :: r, true => passOver fuel .key (true :: outer) r
    | _, _ => none
  | fuel + 1, .key, containers, cs =>
    match skipSpace cs with
    | '"' :: r =>
      match stringUnits r with
      | none => none
      | some (_, r) =>
        match skipSpace r with
        | ':' :: r => passOver fuel .value containers r
        | _ => none
    | _ => none
  | fuel + 1, .value, containers, cs =>
    match skipSpace cs with
    | '[' :: r =>
      match skipSpace r with
      | ']' :: r => passOver fuel .mark containers r
      | r => passOver fuel .value (false :: containers) r
    | '\x7b' :: r =>
      match skipSpace r with
      | '\x7d' :: r => passOver fuel .mark containers r
      | r => passOver fuel .key (true :: containers) r
    | r =>
      match readScalar r with
      | (_, none) => none
      | (_, some r) => passOver fuel .mark containers r

/-- The flaw of a container that is nested too deep, and what follows it unless the text breaks
off. -/
def readTooDeep (fuel : Nat) (cs : List Char) : Json × Option (List Char) :=
  match passOver fuel .value [] cs with
  | some r => (.flawed .unfit, some r)
  | none => (.flawed .broken, none)

/-- The members that a key and a value amount to. -/
def entry : Json → Json → List (String × Json)
  | .str key, j => [(key, j)]
  | _, j => ("", .flawed .unfitKey) :: (if j.isSkippable then [] else [("", .flawed .broken)])

mutual

/-- The document at the front of a list, and what follows it unless the text broke off.
Every step spends fuel, and `depth` containers may still be opened. -/
def readValue : Nat → Nat → List Char → Json × Option (List Char)
  | 0, _, _ => (.flawed .broken, none)
  | fuel + 1, depth, cs =>
    match skipSpace cs, depth with
    | '[' :: r, depth + 1 =>
      match skipSpace r with
      | ']' :: r => (.arr [], some r)
      | r => let (items, r) := readItems fuel depth r; (.arr items, r)
    | '\x7b' :: r, depth + 1 =>
      match skipSpace r with
      | '\x7d' :: r => (.obj [], some r)
      | r => let (members, r) := readMembers fuel depth r; (.obj members, r)
    | '[' :: r, 0 => readTooDeep fuel ('[' :: r)
    | '\x7b' :: r, 0 => readTooDeep fuel ('\x7b' :: r)
    | r, _ => readScalar r

/-- The items of an array from one of them on. -/
def readItems : Nat → Nat → List Char → List Json × Option (List Char)
  | 0, _, _ => ([.flawed .broken], none)
  | fuel + 1, depth, cs =>
    match readValue fuel depth cs with
    | (j, none) => ([j], none)
    | (j, some r) =>
      match skipSpace r with
      | ']' :: r => ([j], some r)
      | ',' :: r => let (items, r) := readItems fuel depth r; (j :: items, r)
      | _ => ([j, .flawed .broken], none)

/-- The members of an object from one of them on. -/
def readMembers : Nat → Nat → List Char → List (String × Json) × Option (List Char)
  | 0, _, _ => ([("", .flawed .brokenKey)], none)
  | fuel + 1, depth, cs =>
    match skipSpace cs with
    | '"' :: r =>
      match readString r with
      | (_, none) => ([("", .flawed .brokenKey)], none)
      | (key, some r) =>
        match skipSpace r with
        | ':' :: r =>
          match readValue fuel depth r with
          | (j, none) => (entry key j, none)
          | (j, some r) =>
            match skipSpace r with
            | '\x7d' :: r => (entry key j, some r)
            | ',' :: r =>
              let (members, r) := readMembers fuel depth r
              (entry key j ++ members, r)
            | _ => (entry key j ++ [("", .flawed .brokenKey)], none)
        | _ => (entry key (.flawed .broken), none)
    | _ => ([("", .flawed .brokenKey)], none)

end

/-- How deep containers may nest. -/
def depthLimit : Nat := 127

/-- The document at the front of a text; what follows it is not looked at. -/
def ofText (s : String) : Json :=
  let cs := s.toList
  (readValue (2 * cs.length + 2) depthLimit cs).1

end Rehoming.Json
