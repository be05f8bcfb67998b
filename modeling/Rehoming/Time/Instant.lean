import Rehoming.Time.Calendar
/-!
# Instants

Moments of universal time.  A second is divided into two thousand million ticks: the lower
half are its nanoseconds, and the upper half those of the leap second that follows a second
59 of some minutes.  An instant is its number of ticks, so that instants are ordered as
numbers are.
-/

namespace Rehoming.Time

/-- A moment, in ticks since the first of January 1970. -/
structure Instant where
  ticks : Int
  deriving DecidableEq, Repr, Inhabited

namespace Instant

/-- The number of nanoseconds in a second. -/
def nanosPerSecond : Int := 1000000000

/-- The number of ticks in a second. -/
def ticksPerSecond : Int := 2000000000

/-- The number of seconds in a day. -/
def secondsPerDay : Int := 86400

/-- The instant of a second and the nanoseconds after it; a thousand million and more of
them belong to the leap second. -/
def ofSeconds (seconds : Int) (nanos : Nat) : Instant :=
  ⟨seconds * ticksPerSecond + nanos⟩

/-- The second an instant falls in, the leap second counted with the one before it. -/
def seconds (t : Instant) : Int :=
  t.ticks / ticksPerSecond

/-- The nanoseconds of an instant after its second. -/
def nanos (t : Instant) : Nat :=
  (t.ticks % ticksPerSecond).toNat

/-- Whether an instant falls in a leap second. -/
def inLeapSecond (t : Instant) : Bool :=
  nanosPerSecond ≤ t.nanos

/-- The number of the day an instant falls in. -/
def day (t : Instant) : Int :=
  t.seconds / secondsPerDay

/-- The second of the day an instant falls in. -/
def secondOfDay (t : Instant) : Nat :=
  (t.seconds % secondsPerDay).toNat

instance : LE Instant := ⟨fun a b => a.ticks ≤ b.ticks⟩

instance : LT Instant := ⟨fun a b => a.ticks < b.ticks⟩

instance : Ord Instant := ⟨fun a b => compare a.ticks b.ticks⟩

instance (a b : Instant) : Decidable (a ≤ b) :=
  inferInstanceAs (Decidable (a.ticks ≤ b.ticks))

instance (a b : Instant) : Decidable (a < b) :=
  inferInstanceAs (Decidable (a.ticks < b.ticks))

theorem le_iff {a b : Instant} : a ≤ b ↔ a.ticks ≤ b.ticks := Iff.rfl

theorem lt_iff {a b : Instant} : a < b ↔ a.ticks < b.ticks := Iff.rfl

/-- The earlier of two instants. -/
def min (a b : Instant) : Instant :=
  if a ≤ b then a else b

/-- The later of two instants. -/
def max (a b : Instant) : Instant :=
  if a ≤ b then b else a

/-- The instant some minutes later. -/
def addMinutes (t : Instant) (n : Nat) : Instant :=
  ⟨t.ticks + n * 60 * ticksPerSecond⟩

/-- The instant some days later, unless that day cannot be written.  From a leap second one
gets to the second 59 of the later day. -/
def addDays? (t : Instant) (n : Nat) : Option Instant :=
  let start : Int := if n ≠ 0 ∧ t.inLeapSecond then t.ticks - nanosPerSecond else t.ticks
  let moved : Instant := ⟨start + n * secondsPerDay * ticksPerSecond⟩
  if moved.day ≤ dayNumber lastDate then some moved else none

end Instant

end Rehoming.Time
