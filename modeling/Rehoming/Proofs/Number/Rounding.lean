import Rehoming.Number.Shortest
import Mathlib.Algebra.Order.Field.Power
import Mathlib.Tactic.FieldSimp
import Mathlib.Tactic.Linarith
import Mathlib.Tactic.NormNum
import Mathlib.Tactic.Positivity
import Mathlib.Tactic.Ring
/-!
# Rounding to the nearest double

A ratio is rounded to a number of 53 bits times a power of two.  It becomes an infinity exactly if
it is not below the middle between the largest double and the power of two behind it: in the
middle the tie goes to the power of two, which is even.
-/

namespace Rehoming.Double

variable {n d b : Nat}

/-! ### Powers of two -/

/-- Shifting a ratio multiplies it by a power of two. -/
theorem shift_eq (n : Nat) (hd : 0 < d) (q : Int) :
  0 < (shift n d q).2 ∧ ((shift n d q).1 : ℚ) / (shift n d q).2 = n / d * 2 ^ q
  := by
  have hd' : (d : ℚ) ≠ 0 := by exact_mod_cast Nat.ne_of_gt hd
  rw [shift]
  split
  next hq =>
    obtain ⟨k, rfl⟩ := Int.eq_ofNat_of_zero_le hq
    refine ⟨hd, ?_⟩
    rw [Int.toNat_natCast, Nat.shiftLeft_eq, zpow_natCast]
    push_cast
    ring
  next hq =>
    obtain ⟨k, rfl⟩ : ∃ k : Nat, q = -k := ⟨q.natAbs, by omega⟩
    rw [Int.neg_neg, Int.toNat_natCast, Nat.shiftLeft_eq, zpow_neg, zpow_natCast]
    constructor
    · positivity
    · push_cast
      field_simp

/-- A ratio lies between the power of two of its order and the next one. -/
theorem binaryOrder_spec (hn : 0 < n) (hd : 0 < d) :
  (2 : ℚ) ^ binaryOrder n d ≤ n / d ∧ (n : ℚ) / d < 2 ^ (binaryOrder n d + 1)
  := by
  have hd' : (0 : ℚ) < d := by exact_mod_cast hd
  have hn₁ : (2 : ℚ) ^ n.log2 ≤ n := by exact_mod_cast Nat.log2_self_le (Nat.ne_of_gt hn)
  have hn₂ : (n : ℚ) < 2 ^ (n.log2 + 1) := by exact_mod_cast Nat.lt_log2_self
  have hd₁ : (2 : ℚ) ^ d.log2 ≤ d := by exact_mod_cast Nat.log2_self_le (Nat.ne_of_gt hd)
  have hd₂ : (d : ℚ) < 2 ^ (d.log2 + 1) := by exact_mod_cast Nat.lt_log2_self
  generalize he : (n.log2 : Int) - d.log2 = e
  have hpow : (2 : ℚ) ^ e = 2 ^ n.log2 / 2 ^ d.log2 := by
    rw [← he, zpow_sub₀ two_ne_zero, zpow_natCast, zpow_natCast]
  have hupper : (n : ℚ) / d < 2 ^ (e + 1) := by
    rw [zpow_add_one₀ two_ne_zero, hpow, div_mul_eq_mul_div,
      div_lt_div_iff₀ hd' (by positivity), ← pow_succ]
    calc
      (n : ℚ) * 2 ^ d.log2 ≤ n * d := by gcongr
      _ < 2 ^ (n.log2 + 1) * d := by gcongr
  have hlower : (2 : ℚ) ^ (e - 1) ≤ n / d := by
    rw [zpow_sub_one₀ two_ne_zero, hpow, ← div_eq_mul_inv, div_div, ← pow_succ,
      div_le_div_iff₀ (by positivity) hd']
    calc
      (2 : ℚ) ^ n.log2 * d ≤ n * d := by gcongr
      _ ≤ n * 2 ^ (d.log2 + 1) := by gcongr
  obtain ⟨hpos, hratio⟩ := shift_eq n hd (-e)
  have hpos' : (0 : ℚ) < (shift n d (-e)).2 := by exact_mod_cast hpos
  have hsplit : (shift n d (-e)).2 ≤ (shift n d (-e)).1 ↔ (2 : ℚ) ^ e ≤ n / d := by
    rw [← Nat.cast_le (α := ℚ), ← one_le_div hpos', hratio, zpow_neg, ← div_eq_mul_inv,
      one_le_div (by positivity)]
  rw [binaryOrder]
  simp only [he]
  split
  next h => exact ⟨hsplit.mp h, hupper⟩
  next h =>
    rw [hsplit, not_le] at h
    rw [Int.sub_add_cancel]
    exact ⟨hlower, h⟩

/-! ### Rounding to a whole number -/

/-- A ratio is rounded to a number that it reaches or to a larger one. -/
theorem le_roundEven (hd : 0 < d) (h : b * d ≤ n) :
  b ≤ roundEven n d
  := by
  have hquotient : b ≤ n / d := (Nat.le_div_iff_mul_le hd).mpr h
  rw [roundEven]
  split
  · exact hquotient
  · split <;> omega

/-- A ratio below a number is rounded to this number at most. -/
theorem roundEven_le (hd : 0 < d) (h : n < b * d) :
  roundEven n d ≤ b
  := by
  have hquotient : n / d < b := (Nat.div_lt_iff_lt_mul hd).mpr h
  rw [roundEven]
  split
  · omega
  · split <;> omega

/-- From the middle on between an even number and the one before it, the even one is reached. -/
theorem roundEven_lt_iff (hd : 0 < d) (hb : 0 < b) (heven : b % 2 = 0) :
  roundEven n d < b ↔ 2 * n < (2 * b - 1) * d
  := by
  obtain ⟨p, rfl⟩ : ∃ p, b = p + 1 := ⟨b - 1, by omega⟩
  have hn := Nat.div_add_mod n d
  have hmod := Nat.mod_lt n hd
  have hmiddle : (2 * (p + 1) - 1) * d = 2 * (d * p) + d := by
    rw [show 2 * (p + 1) - 1 = 2 * p + 1 by omega]
    ring
  rw [roundEven, hmiddle]
  generalize n / d = k at hn ⊢
  generalize n % d = r at hn hmod ⊢
  obtain hk | rfl | hk := Nat.lt_trichotomy k p
  · have hsmall : d * k + d ≤ d * p := Nat.mul_le_mul_left d hk
    split
    · omega
    · split <;> omega
  · split
    · omega
    · split <;> omega
  · have hlarge : d * p + d ≤ d * k := Nat.mul_le_mul_left d hk
    split
    · omega
    · split <;> omega

/-! ### Rounding to a word -/

theorem hiddenBit_eq : hiddenBit = 2 ^ 52 := rfl

theorem infinityBits_eq : infinityBits = 2047 * 2 ^ 52 := rfl

/-- The middle between the largest double and the power of two behind it. -/
def overflow : ℚ :=
  (2 ^ 53 - 1 / 2) * 2 ^ (971 : Int)

theorem two_zpow_lt_overflow {q : Int} (h : q ≤ 1023) :
  (2 : ℚ) ^ q < overflow
  := by
  calc
    (2 : ℚ) ^ q ≤ 2 ^ (52 + 971 : Int) := zpow_le_zpow_right₀ one_le_two h
    _ = 2 ^ 52 * 2 ^ (971 : Int) := by rw [zpow_add₀ two_ne_zero]; norm_num
    _ < overflow := mul_lt_mul_of_pos_right (by norm_num) (by positivity)

theorem overflow_lt_two_zpow {q : Int} (h : 1024 ≤ q) :
  overflow < (2 : ℚ) ^ q
  := by
  calc
    overflow < 2 ^ 53 * 2 ^ (971 : Int) := mul_lt_mul_of_pos_right (by norm_num) (by positivity)
    _ = 2 ^ (53 + 971 : Int) := by rw [zpow_add₀ two_ne_zero]; norm_num
    _ ≤ 2 ^ q := zpow_le_zpow_right₀ one_le_two h

theorem two_zpow_add_mul_neg (q : Int) (k : Nat) :
  (2 : ℚ) ^ (q + k) * 2 ^ (-q) = 2 ^ k
  := by
  rw [← zpow_add₀ two_ne_zero, ← sub_eq_add_neg, add_sub_cancel_left, zpow_natCast]

/-- In units of `2 ^ q` a ratio below `2 ^ (q + k)` is rounded to `2 ^ k` at most. -/
theorem roundEven_shift_le (hd : 0 < d) {q : Int} {k : Nat} (h : (n : ℚ) / d < 2 ^ (q + k)) :
  roundEven (shift n d (-q)).1 (shift n d (-q)).2 ≤ 2 ^ k
  := by
  obtain ⟨he, hshift⟩ := shift_eq n hd (-q)
  have he' : (0 : ℚ) < (shift n d (-q)).2 := by exact_mod_cast he
  refine roundEven_le he ?_
  rw [← Nat.cast_lt (α := ℚ)]
  push_cast
  rw [← div_lt_iff₀ he', hshift]
  calc
    (n : ℚ) / d * 2 ^ (-q) < 2 ^ (q + k) * 2 ^ (-q) := mul_lt_mul_of_pos_right h (by positivity)
    _ = 2 ^ k := two_zpow_add_mul_neg q k

/-- In units of `2 ^ q` a ratio that reaches `2 ^ (q + k)` is rounded to `2 ^ k` or more. -/
theorem le_roundEven_shift (hd : 0 < d) {q : Int} {k : Nat} (h : (2 : ℚ) ^ (q + k) ≤ n / d) :
  2 ^ k ≤ roundEven (shift n d (-q)).1 (shift n d (-q)).2
  := by
  obtain ⟨he, hshift⟩ := shift_eq n hd (-q)
  have he' : (0 : ℚ) < (shift n d (-q)).2 := by exact_mod_cast he
  refine le_roundEven he ?_
  rw [← Nat.cast_le (α := ℚ)]
  push_cast
  rw [← le_div_iff₀ he', hshift]
  calc
    (2 : ℚ) ^ k = 2 ^ (q + k) * 2 ^ (-q) := (two_zpow_add_mul_neg q k).symm
    _ ≤ n / d * 2 ^ (-q) := mul_le_mul_of_nonneg_right h (by positivity)

/-- In units of the last bit of the largest double a ratio is rounded to 53 bits exactly below the
middle. -/
theorem roundEven_shift_lt_iff (n : Nat) (hd : 0 < d) :
  roundEven (shift n d (-971)).1 (shift n d (-971)).2 < 2 ^ 53 ↔ (n : ℚ) / d < overflow
  := by
  obtain ⟨he, hshift⟩ := shift_eq n hd (-971)
  generalize (shift n d (-971)).1 = m at hshift ⊢
  generalize (shift n d (-971)).2 = e at he hshift ⊢
  have he' : (0 : ℚ) < e := by exact_mod_cast he
  have hunit : (0 : ℚ) < 2 ^ (971 : Int) := by positivity
  calc
    roundEven m e < 2 ^ 53 ↔ 2 * m < (2 * 2 ^ 53 - 1) * e := roundEven_lt_iff he (by decide) (by decide)
    _ ↔ 2 * (m : ℚ) < (2 * 2 ^ 53 - 1) * e := by
      rw [← Nat.cast_lt (α := ℚ)]
      norm_num
    _ ↔ (m : ℚ) / e < 2 ^ 53 - 1 / 2 := by
      rw [div_lt_iff₀ he']
      constructor <;> intro _ <;> linarith
    _ ↔ (n : ℚ) / d < overflow := by
      rw [hshift, zpow_neg, ← div_eq_mul_inv, div_lt_iff₀ hunit, overflow]

/-- A ratio is rounded to a number exactly if it is below the middle between the largest one
and the power of two behind it. -/
theorem magnitudeOfRatio_lt_iff (n : Nat) (hd : 0 < d) :
  magnitudeOfRatio n d < infinityBits ↔ (n : ℚ) / d < overflow
  := by
  obtain rfl | hn := Nat.eq_zero_or_pos n
  · have hzero : 0 < overflow := by norm_num [overflow]
    simp [magnitudeOfRatio, infinityBits_eq, hzero]
  obtain ⟨hlower, hupper⟩ := binaryOrder_spec hn hd
  rw [magnitudeOfRatio, if_neg (Nat.ne_of_gt hn), hiddenBit_eq, infinityBits_eq]
  generalize binaryOrder n d = o at hlower hupper
  generalize hq : max (o - 52) (-1074) = q
  dsimp only
  have hbits : roundEven (shift n d (-q)).1 (shift n d (-q)).2 ≤ 2 ^ 53 := by
    apply roundEven_shift_le hd
    exact hupper.trans_le (zpow_le_zpow_right₀ one_le_two (by omega))
  obtain hsmall | hlarge := Int.lt_or_le q 971
  case inl =>
    have hx : (n : ℚ) / d < overflow := hupper.trans_le (two_zpow_lt_overflow (by omega)).le
    refine iff_of_true ?_ hx
    have hexponent : (q + 1075).toNat ≤ 2045 := by omega
    split <;> omega
  case inr =>
    have hfull : 2 ^ 52 ≤ roundEven (shift n d (-q)).1 (shift n d (-q)).2 := by
      apply le_roundEven_shift hd
      exact le_trans (zpow_le_zpow_right₀ one_le_two (by omega)) hlower
    rw [if_neg (Nat.not_lt.mpr hfull)]
    obtain rfl | hlarger := Int.le_iff_eq_or_lt.mp hlarge
    case inl =>
      rw [← roundEven_shift_lt_iff n hd]
      omega
    case inr =>
      have hx : overflow < (n : ℚ) / d := (overflow_lt_two_zpow (by omega)).trans_le hlower
      refine iff_of_false ?_ (not_lt.mpr hx.le)
      have hexponent : 2047 ≤ (q + 1075).toNat := by omega
      omega

/-- A ratio is rounded to infinity at most. -/
theorem magnitudeOfRatio_le (n d : Nat) :
  magnitudeOfRatio n d ≤ infinityBits
  := by
  rw [magnitudeOfRatio]
  split
  · exact Nat.zero_le _
  · dsimp only
    split
    next hsmall => exact hsmall.le.trans (by decide)
    next => exact Nat.min_le_left ..

/-! ### Finite doubles -/

/-- A word up to that of infinity is kept beside the sign. -/
theorem magnitude_ofMagnitude (negative : Bool) {m : Nat} (h : m ≤ infinityBits) :
  (ofMagnitude negative m).magnitude = m
  := by
  rw [infinityBits_eq] at h
  have hsign : signBit = 2 ^ 63 := rfl
  cases negative <;> simp [ofMagnitude, magnitude, hsign] <;> omega

/-- A ratio is rounded to a finite double exactly if it is below the middle between the
largest one and the power of two behind it. -/
theorem isFinite_ofRatio (negative : Bool) (n : Nat) (hd : 0 < d) :
  (ofRatio negative n d).isFinite = true ↔ (n : ℚ) / d < overflow
  := by
  rw [ofRatio, isFinite, magnitude_ofMagnitude negative (magnitudeOfRatio_le n d), decide_eq_true_eq,
    magnitudeOfRatio_lt_iff n hd]

/-- A decimal is the ratio that it is taken for. -/
theorem decimalRatio_eq (digits : Nat) (exponent : Int) :
  0 < (decimalRatio digits exponent).2 ∧
    ((decimalRatio digits exponent).1 : ℚ) / (decimalRatio digits exponent).2 = digits * 10 ^ exponent
  := by
  rw [decimalRatio]
  split
  next h =>
    obtain ⟨k, rfl⟩ := Int.eq_ofNat_of_zero_le h
    refine ⟨Nat.one_pos, ?_⟩
    rw [Int.toNat_natCast, zpow_natCast, Nat.pow_eq]
    push_cast
    ring
  next h =>
    obtain ⟨k, rfl⟩ : ∃ k : Nat, exponent = -k := ⟨exponent.natAbs, by omega⟩
    rw [Int.neg_neg, Int.toNat_natCast, zpow_neg, zpow_natCast, Nat.pow_eq]
    constructor
    · positivity
    · push_cast
      rw [div_eq_mul_inv]

end Rehoming.Double
