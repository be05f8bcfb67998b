import Rehoming.Text.Blank
import Rehoming.Number.Natural
import Rehoming.Time.Instant
/-!
# Timestamps in text

The form `2025-03-01T09:00:00.250Z` of RFC 3339.  Instants are written in universal time
with the fewest of 0, 3, 6 and 9 fractional digits that lose nothing; a leap second is
second 60, and a year outside 0 to 9999 carries a sign.

Reading is more generous than writing.  Any offset from universal time is taken off, a
blank may stand for the `T`, white space may stand before every number and mark, numbers
may lack leading zeros, a year with a sign may be of any length, and fractional digits
after the ninth are dropped.
-/

namespace Rehoming.Time

/-- The digits of a number, with zeros in front up to a width. -/
def padded (width : Nat) (n : Nat) : String :=
  let ds := toString n
  String.ofList (List.replicate (width - ds.length) '0') ++ ds

/-- The year of a timestamp. -/
def yearText (y : Int) : String :=
  if 0 ≤ y ∧ y ≤ 9999 then padded 4 y.toNat
  else (if y < 0 then "-" else "+") ++ padded 4 y.natAbs

/-- The fraction of a second of a timestamp, with the point in front of it. -/
def fractionText (nanos : Nat) : String :=
  if nanos = 0 then ""
  else if nanos % 1000000 = 0 then "." ++ padded 3 (nanos / 1000000)
  else if nanos % 1000 = 0 then "." ++ padded 6 (nanos / 1000)
  else "." ++ padded 9 nanos

/-- The date of an instant. -/
def Instant.dateText (t : Instant) : String :=
  let d := dateOf t.day
  yearText d.year ++ "-" ++ padded 2 d.month ++ "-" ++ padded 2 d.day

/-- The time of day of an instant, in whole seconds. -/
def Instant.clockText (t : Instant) : String :=
  let s := t.secondOfDay
  let second := s % 60 + (if t.inLeapSecond then 1 else 0)
  padded 2 (s / 3600) ++ ":" ++ padded 2 (s / 60 % 60) ++ ":" ++ padded 2 second

/-- The timestamp of an instant. -/
def Instant.text (t : Instant) : String :=
  t.dateText ++ "T" ++ t.clockText ++ fractionText (t.nanos % 1000000000) ++ "Z"

/-- A number of at least one digit and at most `width` of them, and what follows it. -/
def unspaced? (width : Nat) (cs : List Char) : Option (Nat × List Char) :=
  let ds := (cs.take width).takeWhile fun c => (Number.digit? c).isSome
  (Number.digits? ds).map fun n => (n, cs.drop ds.length)

/-- A number after white space. -/
def number? (width : Nat) (cs : List Char) : Option (Nat × List Char) :=
  unspaced? width (Text.trimFront cs)

/-- A year: four digits at most, or a sign and any number of digits. -/
def year? (cs : List Char) : Option (Int × List Char) :=
  match Text.trimFront cs with
  | '-' :: r => (unspaced? r.length r).map fun (n, r) => (-(n : Int), r)
  | '+' :: r => (unspaced? r.length r).map fun (n, r) => ((n : Int), r)
  | r => (unspaced? 4 r).map fun (n, r) => ((n : Int), r)

/-- The rest of a text after a mark, which white space may precede. -/
def mark? (c : Char) (cs : List Char) : Option (List Char) :=
  match Text.trimFront cs with
  | d :: r => if d = c then some r else none
  | [] => none

/-- The nanoseconds after a point, if there is one. -/
def fraction? : List Char → Option (Nat × List Char)
  | '.' :: r =>
    let ds := r.takeWhile fun c => (Number.digit? c).isSome
    let nine := ds.take 9
    (Number.digits? nine).map fun n => (n * Nat.pow 10 (9 - nine.length), r.drop ds.length)
  | r => some (0, r)

/-- Two digits. -/
def twoDigits? : List Char → Option (Nat × List Char)
  | a :: b :: r => (Number.digits? [a, b]).map fun n => (n, r)
  | _ => none

/-- The sign of an offset; the minus may be a hyphen or the mathematical sign. -/
def sign? (c : Char) : Option Int :=
  if c = '+' then some 1 else if c = '-' ∨ c = Char.ofNat 0x2212 then some (-1) else none

/-- The offset from universal time, in seconds. -/
def offset? (cs : List Char) : Option (Int × List Char) :=
  match Text.trimFront cs with
  | 'Z' :: r | 'z' :: r => some (0, r)
  | a :: r =>
    if (a :: r.take 2).map Char.toLower = ['u', 't', 'c'] then some (0, r.drop 2)
    else do
      let sign ← sign? a
      let (hours, r) ← twoDigits? r
      let (minutes, r) ← twoDigits? (r.dropWhile fun c => c = ':' || Text.isWhite c)
      if minutes < 60 ∧ hours < 24 then some (sign * (hours * 3600 + minutes * 60), r) else none
  | [] => none

/-- The rest of a text after the letter or the blank between date and time. -/
def separator? : List Char → Option (List Char)
  | 'T' :: r | 't' :: r | ' ' :: r => some r
  | _ => none

/-- Whether a day can be written. -/
def isWritable (day : Int) : Bool :=
  dayNumber firstDate ≤ day && day ≤ dayNumber lastDate

/-- The instant of a timestamp. -/
def Instant.ofText? (s : String) : Option Instant := do
  let (year, r) ← year? s.toList
  let r ← mark? '-' r
  let (month, r) ← number? 2 r
  let r ← mark? '-' r
  let (day, r) ← number? 2 r
  let r ← separator? r
  let (hour, r) ← number? 2 r
  let r ← mark? ':' r
  let (minute, r) ← number? 2 r
  let r ← mark? ':' r
  let (second, r) ← number? 2 r
  let (nanos, r) ← fraction? r
  let (offset, r) ← offset? r
  let date : Date := ⟨year, month, day⟩
  if r.all Text.isWhite && date.exists && isWritable (dayNumber date)
      && hour < 24 && minute < 60 && second ≤ 60 then
    let leap := if second = 60 then 1 else 0
    let seconds := dayNumber date * 86400 + hour * 3600 + minute * 60 + (second - leap : Nat) - offset
    let t := Instant.ofSeconds seconds (nanos + leap * 1000000000)
    if isWritable t.day then some t else none
  else none

end Rehoming.Time
