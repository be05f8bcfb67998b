import Rehoming.Time.Instant
/-!
# Instants and their days

An instant is made up of its day, the second of the day and the nanoseconds after it.

Whether the day that lies some days after an instant can be written depends on the day of the
instant only, so that it cannot be written for a later instant if it cannot for an earlier
one.
-/

namespace Rehoming.Time.Instant

variable {t t' t'' : Instant} {n : Nat}

/-! ### Order -/

theorem le_refl (t : Instant) :
  t ≤ t
  := Int.le_refl t.ticks

theorem le_trans (h : t ≤ t') (h' : t' ≤ t'') :
  t ≤ t''
  := Int.le_trans h h'

theorem le_antisymm (h : t ≤ t') (h' : t' ≤ t) :
  t = t'
  := congrArg Instant.mk (Int.le_antisymm h h')

theorem day_le_day (h : t ≤ t') :
  t.day ≤ t'.day
  := by
  apply Int.ediv_le_ediv (by decide)
  apply Int.ediv_le_ediv (by decide)
  exact h

/-! ### Parts of an instant -/

theorem inLeapSecond_iff :
  t.inLeapSecond = true ↔ nanosPerSecond ≤ t.ticks % ticksPerSecond
  := by
  rw [inLeapSecond, decide_eq_true_iff]
  simp only [nanos, nanosPerSecond, ticksPerSecond]
  omega

theorem ofSeconds_seconds_nanos (t : Instant) :
  ofSeconds t.seconds t.nanos = t
  := by
  obtain ⟨ticks⟩ := t
  simp only [ofSeconds, seconds, nanos, ticksPerSecond, mk.injEq]
  omega

theorem day_add_secondOfDay (t : Instant) :
  t.day * 86400 + t.secondOfDay = t.seconds
  := by
  simp only [day, secondOfDay, secondsPerDay]
  omega

theorem secondOfDay_lt (t : Instant) :
  t.secondOfDay < 86400
  := by
  simp only [secondOfDay, secondsPerDay]
  omega

theorem nanos_lt (t : Instant) :
  t.nanos < 2000000000
  := by
  simp only [nanos, ticksPerSecond]
  omega

theorem secondOfDay_ofSeconds {seconds : Int} (hn : n < 2000000000) :
  (ofSeconds seconds n).secondOfDay = (seconds % 86400).toNat
  := by
  simp only [ofSeconds, Instant.seconds, secondOfDay, ticksPerSecond, secondsPerDay]
  omega

theorem inLeapSecond_ofSeconds {seconds : Int} (hn : n < 2000000000) :
  (ofSeconds seconds n).inLeapSecond = true ↔ 1000000000 ≤ n
  := by
  rw [inLeapSecond_iff]
  simp only [ofSeconds, nanosPerSecond, ticksPerSecond]
  omega

/-! ### Days from an instant -/

/-- Days are whole numbers of seconds, and a leap second counts with the second before it. -/
theorem day_of_ticks {start : Int}
    (hstart : start = t.ticks ∨ t.inLeapSecond = true ∧ start = t.ticks - nanosPerSecond) :
  day ⟨start + n * secondsPerDay * ticksPerSecond⟩ = t.day + n
  := by
  rw [inLeapSecond_iff] at hstart
  simp only [nanosPerSecond, ticksPerSecond] at hstart
  simp only [day, seconds, ticksPerSecond, secondsPerDay]
  omega

theorem addDays?_eq_none_iff :
  t.addDays? n = none ↔ dayNumber lastDate < t.day + n
  := by
  have hday : day ⟨(if n ≠ 0 ∧ t.inLeapSecond then t.ticks - nanosPerSecond else t.ticks)
      + n * secondsPerDay * ticksPerSecond⟩ = t.day + n := by
    apply day_of_ticks
    split
    next h => exact .inr ⟨h.2, rfl⟩
    next => exact .inl rfl
  simp only [addDays?, hday]
  simp

/-- What is too late for one instant is too late for a later one. -/
theorem addDays?_eq_none_of_le (hle : t ≤ t') (h : t.addDays? n = none) :
  t'.addDays? n = none
  := by
  rw [addDays?_eq_none_iff] at h ⊢
  have hday : t.day ≤ t'.day := day_le_day hle
  omega

end Rehoming.Time.Instant
