import Rehoming.Text.Lowercase
/-!
# Lowercase forms

The lowercase form of a text is its own lowercase form.  The table of the runs is checked run
against run: what one run leads to lies outside every other one, or between its members.
-/

namespace Rehoming.Text

/-! ### Runs -/

namespace CaseRun

/-- The code point that the first one of a run leads to. -/
def lowerFirst (r : CaseRun) : Nat :=
  (r.first + r.offset).toNat

/-- The code point that the last one of a run leads to. -/
def lowerLast (r : CaseRun) : Nat :=
  (r.last + r.offset).toNat

/-- Whether what a run leads to lies before or behind another run, or between every two of its
members. -/
def misses (r r' : CaseRun) : Bool :=
  Nat.blt r.lowerLast r'.first || Nat.blt r'.last r.lowerFirst
    || (Nat.beq r'.step 2 && (Nat.beq r.step 2 || Nat.beq r.first r.last)
      && Nat.beq (r.lowerFirst % 2) ((r'.first + 1) % 2))

/-- Whether a run leads to code points of characters. -/
def isSound (r : CaseRun) : Bool :=
  decide (0 ≤ r.first + r.offset)
    && (Nat.blt r.lowerLast 0xD800 || (Nat.ble 0xE000 r.lowerFirst && Nat.blt r.lowerLast 0x110000))

/-- Whether a run of ASCII characters is that of the capital letters. -/
def isAsciiSound (r : CaseRun) : Bool :=
  Nat.ble 0x80 r.first || (Nat.beq r.first 0x41 && Nat.beq r.last 0x5A)

variable {r r' : CaseRun} {n : Nat}

theorem covers_iff :
  r.covers n = true ↔ r.first ≤ n ∧ n ≤ r.last ∧ (n - r.first) % r.step = 0
  := by
  simp [covers, and_assoc]

theorem covers_iff_of_step {first last : Nat} {offset : Int} :
  (CaseRun.mk first last 1 offset).covers n = true ↔ first ≤ n ∧ n ≤ last
  := by
  simp [covers_iff, Nat.mod_one]

/-- No member of a run leads into a run that is missed. -/
theorem covers_eq_false_of_misses (h : r.misses r' = true) (hsound : r.isSound = true)
    (hn : r.covers n = true) :
  r'.covers (n + r.offset).toNat = false
  := by
  obtain ⟨hfirst, hlast, hstep⟩ := covers_iff.mp hn
  rw [← Bool.not_eq_true, covers_iff]
  rintro ⟨hfirst', hlast', hstep'⟩
  simp only [isSound, Bool.and_eq_true, decide_eq_true_eq] at hsound
  simp only [misses, lowerFirst, lowerLast, Nat.blt_eq, Bool.or_eq_true, Bool.and_eq_true,
    Nat.beq_eq] at h
  obtain (hbefore | hbehind) | ⟨⟨htwo', htwo | hsingle⟩, hparity⟩ := h
  · omega
  · omega
  · rw [htwo] at hstep
    rw [htwo'] at hstep'
    omega
  · rw [htwo'] at hstep'
    omega

/-- The members of a run lead to characters. -/
theorem isValidChar_of_isSound (h : r.isSound = true) (hn : r.covers n = true) :
  (n + r.offset).toNat.isValidChar
  := by
  obtain ⟨hfirst, hlast, -⟩ := covers_iff.mp hn
  simp only [isSound, lowerFirst, lowerLast, Bool.and_eq_true, decide_eq_true_eq, Bool.or_eq_true,
    Nat.blt_eq, Nat.ble_eq] at h
  rw [Nat.isValidChar]
  omega

end CaseRun

/-- The code point whose lowercase form has two characters, as a run of its own. -/
def longRun : CaseRun := ⟨0x130, 0x130, 1, 0⟩

/-- Every run leads to characters outside all runs, and those of ASCII are the capital
letters. -/
theorem lowercaseRuns_sound :
  (lowercaseRuns.all fun r =>
    r.isSound && r.isAsciiSound && (longRun :: lowercaseRuns).all r.misses) = true
  := by
  decide +kernel

/-! ### Characters -/

/-- Whether no run covers a character, so that it is its own lowercase form. -/
def isLower (c : Char) : Bool :=
  (longRun :: lowercaseRuns).all fun r => !r.covers c.toNat

theorem toNat_ofNat {n : Nat} (h : n.isValidChar) :
  (Char.ofNat n).toNat = n
  := by
  rw [Char.ofNat, dif_pos h]
  rfl

/-- The lowercase forms of the ASCII characters. -/
theorem toLower_ascii {c : Char} (h : c.toNat < 0x80) :
  c.toLower = Char.ofNat (if 0x41 ≤ c.toNat ∧ c.toNat ≤ 0x5A then c.toNat + 32 else c.toNat)
  := by
  have htable : ∀ n < 0x80, (Char.ofNat n).toLower
      = Char.ofNat (if 0x41 ≤ n ∧ n ≤ 0x5A then n + 32 else n) := by decide
  rw [← htable c.toNat h, Char.ofNat_toNat]

/-- No run covers the characters of the lowercase forms that are not given by a run. -/
theorem isLower_exceptions {d : Char}
    (h : d ∈ ['i', Char.ofNat 0x307] ++ [Char.ofNat 0x3C2, Char.ofNat 0x3C3]) :
  isLower d = true
  := by
  have hall : (['i', Char.ofNat 0x307] ++ [Char.ofNat 0x3C2, Char.ofNat 0x3C3]).all isLower = true := by
    decide +kernel
  exact List.all_eq_true.mp hall d h

theorem isLower_iff {c : Char} :
  isLower c = true ↔ longRun.covers c.toNat = false ∧ ∀ r ∈ lowercaseRuns, r.covers c.toNat = false
  := by
  simp [isLower]

/-- A character that no run covers is its own lowercase form. -/
theorem lowercaseChar_of_isLower {c : Char} (h : isLower c = true) :
  lowercaseChar c = [c]
  := by
  obtain ⟨hlong, hruns⟩ := isLower_iff.mp h
  rw [lowercaseChar]
  split
  next hascii =>
    have hcapital := hruns ⟨0x41, 0x5A, 1, 32⟩ List.mem_cons_self
    rw [← Bool.not_eq_true, CaseRun.covers_iff_of_step] at hcapital
    rw [toLower_ascii hascii, if_neg hcapital, Char.ofNat_toNat]
  next =>
    have hnot : c.toNat ≠ 0x130 := by
      intro heq
      rw [heq] at hlong
      cases hlong
    have hnone : lowercaseRuns.find? (·.covers c.toNat) = none := by
      simpa using hruns
    rw [if_neg hnot, hnone]

/-- The ASCII characters that no run covers are those that are no capital letters. -/
theorem isLower_of_ascii {c : Char} (hascii : c.toNat < 0x80)
    (hother : ¬(0x41 ≤ c.toNat ∧ c.toNat ≤ 0x5A)) :
  isLower c = true
  := by
  rw [isLower_iff]
  constructor
  · rw [← Bool.not_eq_true, longRun, CaseRun.covers_iff_of_step]
    omega
  · intro r hr
    have hsound := List.all_eq_true.mp lowercaseRuns_sound r hr
    simp only [Bool.and_eq_true, CaseRun.isAsciiSound, Bool.or_eq_true, Nat.ble_eq,
      Nat.beq_eq] at hsound
    rw [← Bool.not_eq_true, CaseRun.covers_iff]
    omega

/-- A character of the lowercase form of another one is that character itself, which no run covers,
or one of the two that the long run leads to, or the one that another run leads to. -/
theorem mem_lowercaseChar {c d : Char} (hd : d ∈ lowercaseChar c) :
  d = c ∧ isLower c = true
    ∨ d ∈ ['i', Char.ofNat 0x307]
    ∨ ∃ r ∈ lowercaseRuns, r.covers c.toNat = true ∧ d = Char.ofNat (c.toNat + r.offset).toNat
  := by
  rw [lowercaseChar] at hd
  split at hd
  next hascii =>
    obtain rfl := List.mem_singleton.mp hd
    by_cases hcapital : 0x41 ≤ c.toNat ∧ c.toNat ≤ 0x5A
    · refine .inr (.inr ⟨⟨0x41, 0x5A, 1, 32⟩, List.mem_cons_self,
        CaseRun.covers_iff_of_step.mpr hcapital, ?_⟩)
      rw [toLower_ascii hascii, if_pos hcapital]
      rfl
    · apply Or.inl
      rw [toLower_ascii hascii, if_neg hcapital, Char.ofNat_toNat]
      exact ⟨rfl, isLower_of_ascii hascii hcapital⟩
  next hascii =>
    split at hd
    next => exact .inr (.inl hd)
    next hnot =>
      split at hd
      next r hr =>
        have hcovers : r.covers c.toNat = true := by simpa using List.find?_some hr
        exact .inr (.inr ⟨r, List.mem_of_find?_eq_some hr, hcovers, List.mem_singleton.mp hd⟩)
      next hnone =>
        refine .inl ⟨List.mem_singleton.mp hd, ?_⟩
        rw [isLower_iff]
        constructor
        · rw [← Bool.not_eq_true, longRun, CaseRun.covers_iff_of_step]
          omega
        · simpa using hnone

/-- The lowercase form of a character holds no character that a run covers. -/
theorem isLower_of_mem_lowercaseChar {c d : Char} (hd : d ∈ lowercaseChar c) :
  isLower d = true
  := by
  obtain ⟨rfl, hlower⟩ | hlong | ⟨r, hr, hcovers, rfl⟩ := mem_lowercaseChar hd
  · exact hlower
  · exact isLower_exceptions (List.mem_append_left _ hlong)
  · have hsound := List.all_eq_true.mp lowercaseRuns_sound r hr
    simp only [Bool.and_eq_true, List.all_cons, List.all_eq_true] at hsound
    obtain ⟨⟨hsound, -⟩, hlong, hruns⟩ := hsound
    rw [isLower_iff, toNat_ofNat (CaseRun.isValidChar_of_isSound hsound hcovers)]
    constructor
    · exact CaseRun.covers_eq_false_of_misses hlong hsound hcovers
    · intro r' hr'
      exact CaseRun.covers_eq_false_of_misses (hruns r' hr') hsound hcovers

/-! ### Texts -/

/-- No run covers a character of a lowercase form. -/
theorem isLower_of_mem_lowercaseAfter {before cs : List Char} {d : Char}
    (hd : d ∈ lowercaseAfter before cs) :
  isLower d = true
  := by
  induction cs generalizing before with
  | nil => cases hd
  | cons c r ih =>
    rw [lowercaseAfter] at hd
    obtain hd | hd := List.mem_append.mp hd
    · split at hd
      · obtain rfl := List.mem_singleton.mp hd
        apply isLower_exceptions
        apply List.mem_append_right
        rw [lowercaseSigma]
        split <;> simp
      · apply isLower_of_mem_lowercaseChar hd
    · apply ih hd

/-- Characters that no run covers are their own lowercase form, wherever they stand. -/
theorem lowercaseAfter_eq_self {before cs : List Char} (h : ∀ c ∈ cs, isLower c = true) :
  lowercaseAfter before cs = cs
  := by
  induction cs generalizing before with
  | nil => rfl
  | cons c r ih =>
    have hsigma : c ≠ capitalSigma := by
      rintro rfl
      have hlower := h capitalSigma List.mem_cons_self
      revert hlower
      decide +kernel
    rw [lowercaseAfter, if_neg hsigma, lowercaseChar_of_isLower (h c List.mem_cons_self), ih]
    · rfl
    · intro d hd
      apply h d (List.mem_cons_of_mem c hd)

/-- The lowercase form of a text is its own lowercase form. -/
theorem lowercase_lowercase (s : String) :
  lowercase (lowercase s) = lowercase s
  := by
  have hlower : ∀ d ∈ lowercaseAfter [] s.toList, isLower d = true := by
    intro d
    apply isLower_of_mem_lowercaseAfter
  rw [lowercase, lowercase, String.toList_ofList, lowercaseAfter_eq_self hlower]

end Rehoming.Text
