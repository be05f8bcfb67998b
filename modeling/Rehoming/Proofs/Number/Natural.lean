import Rehoming.Number.Natural
import Mathlib.Tactic.Common
/-!
# Reading numerals

What some characters are read as: the value of their digits if they are digits, and nothing
else.  So every number is read back from its decimal digits.
-/

namespace Rehoming.Number

variable {c : Char} {cs : List Char} {n : Nat}

theorem digit?_eq (c : Char) :
  digit? c = if c.isDigit then some (c.toNat - '0'.toNat) else none
  := by
  simp [digit?, Char.isDigit, Char.le_def]

/-- Digits are read one after the other, and anything else is not read at all. -/
theorem digitsFrom_eq (n : Nat) (cs : List Char) :
  digitsFrom n cs = if cs.all Char.isDigit then some (Nat.ofDigitChars 10 cs n) else none
  := by
  induction cs generalizing n with
  | nil => rfl
  | cons c rest ih =>
    rw [digitsFrom, digit?_eq, List.all_cons, Nat.ofDigitChars_cons]
    by_cases hc : c.isDigit = true
    · rw [if_pos hc, Option.bind_some, ih, hc, Bool.true_and]
    · simp [hc]

theorem digits?_eq_some_iff :
  digits? cs = some n ↔ cs ≠ [] ∧ cs.all Char.isDigit = true ∧ Nat.ofDigitChars 10 cs 0 = n
  := by
  rw [digits?, digitsFrom_eq]
  cases cs with
  | nil => simp
  | cons c rest => simp

theorem digitsFrom_lt {m : Nat} (h : digitsFrom m cs = some n) :
  n < (m + 1) * Nat.pow 10 cs.length
  := by
  induction cs generalizing m with
  | nil =>
    obtain rfl := Option.some.inj h
    calc
      m < m + 1 := Nat.lt_succ_self m
      _ = (m + 1) * Nat.pow 10 [].length := (Nat.mul_one _).symm
  | cons c rest ih =>
    obtain ⟨d, hd, hrest⟩ := Option.bind_eq_some_iff.mp h
    have hten : d < 10 := by
      rw [digit?_eq] at hd
      split at hd
      case isTrue hc =>
        have hnine := (Char.isDigit_iff_toNat.mp hc).2
        rw [show '9'.toNat = '0'.toNat + 9 from rfl] at hnine
        obtain rfl := Option.some.inj hd
        omega
      case isFalse => cases hd
    calc
      n < (10 * m + d + 1) * Nat.pow 10 rest.length := ih hrest
      _ ≤ (10 * (m + 1)) * Nat.pow 10 rest.length := Nat.mul_le_mul_right _ (by omega)
      _ = (m + 1) * (10 * Nat.pow 10 rest.length) := by rw [Nat.mul_comm 10, Nat.mul_assoc]
      _ = (m + 1) * Nat.pow 10 (c :: rest).length := by rw [Nat.mul_comm 10]; rfl

/-- A number is below the least one that takes more digits. -/
theorem lt_of_digits? (h : digits? cs = some n) :
  n < Nat.pow 10 cs.length
  := by
  rw [digits?] at h
  split at h
  · cases h
  · have hlt := digitsFrom_lt h
    omega

theorem all_isDigit_toDigits (n : Nat) :
  (Nat.toDigits 10 n).all Char.isDigit = true
  := by
  apply List.all_eq_true.mpr
  intro c hc
  exact Nat.isDigit_of_mem_toDigits (by decide) (by decide) hc

/-- A number is what its decimal digits are read as. -/
theorem digits?_toDigits (n : Nat) :
  digits? (Nat.toDigits 10 n) = some n
  := by
  apply digits?_eq_some_iff.mpr
  exact ⟨Nat.toDigits_ne_nil, all_isDigit_toDigits n, Nat.ofDigitChars_ten_toDigits⟩

end Rehoming.Number
