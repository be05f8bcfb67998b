import Rehoming.Time.Calendar
import Mathlib.Tactic.Common
/-!
# Dates of days and days of dates

The date of a day is a date of the calendar, and its number is that of the day.

An era of 400 years falls into centuries, these into groups of four years, and these into
years, each of the parts but the last of its kind as long as the others.  Years begin in March,
so that a leap day comes at the end of everything that it makes longer.
-/

namespace Rehoming.Time

/-! ### Days of an era -/

/-- A day of an era, by the century, the group of four years in the century, the year in the group
and the day of the year.  A year has a day 365 if it ends in a leap day. -/
structure IsDayOfEra (d century quad year day : Int) : Prop where
  century_nonneg : 0 ≤ century
  century_le : century ≤ 3
  quad_nonneg : 0 ≤ quad
  quad_le : quad ≤ 24
  year_nonneg : 0 ≤ year
  year_le : year ≤ 3
  day_nonneg : 0 ≤ day
  day_le : day ≤ 365
  leap : day = 365 → year = 3 ∧ (quad = 24 → century = 3)
  eq : d = 36524 * century + 1461 * quad + 365 * year + day

variable {d n era a b s k m : Int}

theorem exists_isDayOfEra (h0 : 0 ≤ d) (h1 : d < 146097) :
  ∃ a b s k, IsDayOfEra d a b s k
  := by
  refine ⟨min 3 (d / 36524), ?_⟩
  generalize ha : min 3 (d / 36524) = a
  refine ⟨min 24 ((d - 36524 * a) / 1461), ?_⟩
  generalize hb : min 24 ((d - 36524 * a) / 1461) = b
  refine ⟨min 3 ((d - 36524 * a - 1461 * b) / 365), ?_⟩
  generalize hs : min 3 ((d - 36524 * a - 1461 * b) / 365) = s
  refine ⟨d - 36524 * a - 1461 * b - 365 * s, ?_⟩
  constructor <;> omega

/-- The year of an era is found from the day: what is taken off for leap days comes to the leap days
before it. -/
theorem IsDayOfEra.year_eq (h : IsDayOfEra d a b s k) :
  (d - d / 1460 + d / 36524 - d / 146096) / 365 = 100 * a + 4 * b + s
  := by
  obtain ⟨ha0, ha3, hb0, hb24, hs0, hs3, hk0, hk, hleap, hd⟩ := h
  by_cases hlast : d = 146096
  · subst hlast
    omega
  · have hera : d / 146096 = 0 := by omega
    have hcentury : d / 36524 = a := by omega
    have hquad : d / 1460 = 25 * a + b + (24 * a + b + 365 * s + k) / 1460 := by omega
    rw [hera, hcentury, hquad]
    omega

/-! ### Dates -/

/-- The date of a year that begins in March, by its month and the day of it. -/
def marchDate (year month day : Int) : Date :=
  ⟨year + (if month < 10 then 0 else 1), (if month < 10 then month + 3 else month - 9).toNat,
    day.toNat⟩

theorem IsDayOfEra.day_eq (h : IsDayOfEra d a b s k) :
  d - (365 * (100 * a + 4 * b + s) + (100 * a + 4 * b + s) / 4 - (100 * a + 4 * b + s) / 100) = k
  := by
  obtain ⟨ha0, ha3, hb0, hb24, hs0, hs3, -, -, -, hd⟩ := h
  have hfour : (100 * a + 4 * b + s) / 4 = 25 * a + b := by omega
  have hhundred : (100 * a + 4 * b + s) / 100 = a := by omega
  rw [hfour, hhundred, hd]
  omega

theorem dateOf_eq (h : IsDayOfEra (n + 719468 - era * 146097) a b s k)
    (hm : m = (5 * k + 2) / 153) :
  dateOf n = marchDate (100 * a + 4 * b + s + era * 400) m (k - (153 * m + 2) / 5 + 1)
  := by
  have hera : (n + 719468) / 146097 = era := by
    obtain ⟨ha0, ha3, hb0, hb24, hs0, hs3, hk0, hk, hleap, hd⟩ := h
    omega
  have hmonth : 0 ≤ m ∧ m ≤ 11 := by
    have hk0 := h.day_nonneg
    have hk := h.day_le
    omega
  simp only [dateOf, hera, h.year_eq, h.day_eq, ← hm, marchDate]
  congr 2
  clear hera hm h
  by_cases hlt : m < 10
  · simp only [hlt, if_true]
    rw [if_neg (by omega)]
  · simp only [hlt, if_false]
    rw [if_pos (by omega)]

theorem dayNumber_marchDate (h : IsDayOfEra d a b s k)
    (hm : m = (5 * k + 2) / 153) :
  dayNumber (marchDate (100 * a + 4 * b + s + era * 400) m (k - (153 * m + 2) / 5 + 1))
    = era * 146097 + d - 719468
  := by
  have hday := h.day_eq
  obtain ⟨ha0, ha3, hb0, hb24, hs0, hs3, hk0, hk, -, -⟩ := h
  have hmonth : 0 ≤ m ∧ m ≤ 11 := by omega
  have hera : (100 * a + 4 * b + s + era * 400) / 400 = era := by omega
  have hfirst : 0 ≤ k - (153 * m + 2) / 5 + 1 := by omega
  generalize 100 * a + 4 * b + s = y at *
  clear ha0 ha3 hb0 hb24 hs0 hs3 hk0 hk hm
  by_cases hlt : m < 10
  · have hcast : ((m + 3).toNat : Int) - 3 = m := by omega
    have hlate : ¬ (m + 3).toNat ≤ 2 := by omega
    simp only [marchDate, dayNumber, if_pos hlt, if_neg hlate, Int.add_zero, hera, hcast,
      Int.add_sub_cancel, Int.toNat_of_nonneg hfirst]
    omega
  · have hcast : ((m - 9).toNat : Int) + 9 = m := by omega
    have hearly : (m - 9).toNat ≤ 2 := by omega
    simp only [marchDate, dayNumber, if_neg hlt, if_pos hearly, hera, hcast,
      Int.add_sub_cancel, Int.toNat_of_nonneg hfirst]
    omega

/-- The months from March to January have as many days as lie between their beginnings. -/
theorem daysInMonth_march {year : Int} (h0 : 0 ≤ m) (h10 : m ≤ 10) :
  (daysInMonth year (if m < 10 then m + 3 else m - 9).toNat : Int)
    = (153 * (m + 1) + 2) / 5 - (153 * m + 2) / 5
  := by
  have hmonth : m = 0 ∨ m = 1 ∨ m = 2 ∨ m = 3 ∨ m = 4 ∨ m = 5 ∨ m = 6 ∨ m = 7 ∨ m = 8 ∨ m = 9
      ∨ m = 10 := by omega
  rcases hmonth with rfl | rfl | rfl | rfl | rfl | rfl | rfl | rfl | rfl | rfl | rfl <;> rfl

theorem exists_marchDate (h : IsDayOfEra d a b s k)
    (hm : m = (5 * k + 2) / 153) :
  (marchDate (100 * a + 4 * b + s + era * 400) m (k - (153 * m + 2) / 5 + 1)).exists = true
  := by
  obtain ⟨ha0, ha3, hb0, hb24, hs0, hs3, hk0, hk, hleap, -⟩ := h
  have hmonth : 0 ≤ m ∧ m ≤ 11 := by omega
  have hfirst : 1 ≤ k - (153 * m + 2) / 5 + 1 := by omega
  have hlast : k - (153 * m + 2) / 5 + 1 ≤ daysInMonth
      (100 * a + 4 * b + s + era * 400 + (if m < 10 then 0 else 1))
      (if m < 10 then m + 3 else m - 9).toNat := by
    by_cases hfebruary : m = 11
    · subst hfebruary
      change k - 337 + 1
        ≤ ((if isLeapYear (100 * a + 4 * b + s + era * 400 + 1) then 29 else 28 : Nat) : Int)
      by_cases hday : k = 365
      · obtain ⟨rfl, hquad⟩ := hleap hday
        have hyear : isLeapYear (100 * a + 4 * b + 3 + era * 400 + 1) = true := by
          simp only [isLeapYear, Bool.and_eq_true, Bool.or_eq_true, beq_iff_eq, bne_iff_ne]
          omega
        rw [if_pos hyear]
        omega
      · split <;> omega
    · rw [daysInMonth_march hmonth.1 (by omega)]
      omega
  simp only [Date.exists, marchDate, Bool.and_eq_true]
  refine ⟨⟨⟨decide_eq_true ?_, decide_eq_true ?_⟩, decide_eq_true ?_⟩, decide_eq_true ?_⟩
  · split <;> omega
  · split <;> omega
  · omega
  · omega

/-! ### There and back -/

theorem isDayOfEra_of_day (n : Int) :
  ∃ era a b s k, IsDayOfEra (n + 719468 - era * 146097) a b s k
  := by
  refine ⟨(n + 719468) / 146097, ?_⟩
  exact exists_isDayOfEra (by omega) (by omega)

/-- The number of the date of a day is the number of the day. -/
theorem dayNumber_dateOf (n : Int) :
  dayNumber (dateOf n) = n
  := by
  obtain ⟨era, a, b, s, k, h⟩ := isDayOfEra_of_day n
  rw [dateOf_eq h rfl, dayNumber_marchDate h rfl]
  omega

/-- The date of a day is one that the calendar has. -/
theorem exists_dateOf (n : Int) :
  (dateOf n).exists = true
  := by
  obtain ⟨era, a, b, s, k, h⟩ := isDayOfEra_of_day n
  rw [dateOf_eq h rfl]
  exact exists_marchDate h rfl

theorem Date.month_le_of_exists {date : Date} (h : date.exists = true) :
  date.month ≤ 12
  := by
  simp only [Date.exists, Bool.and_eq_true] at h
  exact of_decide_eq_true h.1.1.2

theorem Date.day_le_of_exists {date : Date} (h : date.exists = true) :
  date.day ≤ 31
  := by
  simp only [Date.exists, Bool.and_eq_true] at h
  apply Nat.le_trans (of_decide_eq_true h.2)
  unfold daysInMonth
  split
  · split <;> decide
  all_goals decide

end Rehoming.Time
