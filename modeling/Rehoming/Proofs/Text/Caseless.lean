import Rehoming.Proofs.Text.Lowercase
import Rehoming.Proofs.Text.Sigma
import Rehoming.Text.Blank
import Mathlib.Tactic.Common
/-!
# Characters without case

White space, the dot and the at sign have no case.  Putting a text in lowercase leaves them where
they are and adds none of them, and it leaves nothing out.
-/

namespace Rehoming.Text

/-- White space, the dot and the at sign, as runs that lead to themselves. -/
def caselessRuns : List CaseRun :=
  [⟨9, 13, 1, 0⟩, ⟨0x20, 0x20, 1, 0⟩, ⟨0x2E, 0x2E, 1, 0⟩, ⟨0x40, 0x40, 1, 0⟩, ⟨0x85, 0x85, 1, 0⟩,
   ⟨0xA0, 0xA0, 1, 0⟩, ⟨0x1680, 0x1680, 1, 0⟩, ⟨0x2000, 0x200A, 1, 0⟩, ⟨0x2028, 0x2029, 1, 0⟩,
   ⟨0x202F, 0x202F, 1, 0⟩, ⟨0x205F, 0x205F, 1, 0⟩, ⟨0x3000, 0x3000, 1, 0⟩]

/-- Whether a character is white space, the dot or the at sign. -/
def isCaseless (c : Char) : Bool :=
  caselessRuns.any (·.covers c.toNat)

variable {c d : Char} {before cs after : List Char}

/-- No run leads to white space, the dot or the at sign, and none of them lies in a run. -/
theorem caselessRuns_sound :
  (caselessRuns.all fun r =>
    r.isSound && (longRun :: lowercaseRuns).all r.misses
      && lowercaseRuns.all fun r' => r'.misses r) = true
  := by
  decide +kernel

theorem isCaseless_of_isWhite (h : isWhite c = true) :
  isCaseless c = true
  := by
  simp only [isWhite, Bool.or_eq_true, Bool.and_eq_true, decide_eq_true_eq, beq_iff_eq] at h
  simp only [isCaseless, caselessRuns, List.any_cons, List.any_nil, Bool.or_eq_true,
    CaseRun.covers_iff_of_step]
  omega

/-! ### Single characters -/

theorem isLower_of_isCaseless (h : isCaseless c = true) :
  isLower c = true
  := by
  obtain ⟨r, hr, hcovers⟩ := List.any_eq_true.mp h
  have hsound := List.all_eq_true.mp caselessRuns_sound r hr
  simp only [Bool.and_eq_true, List.all_eq_true] at hsound
  obtain ⟨⟨hsound, hmisses⟩, -⟩ := hsound
  have hoffset : (c.toNat + r.offset).toNat = c.toNat := by
    have hzero : ∀ r ∈ caselessRuns, r.offset = 0 := by decide
    rw [hzero r hr, Int.add_zero, Int.toNat_natCast]
  rw [isLower, List.all_eq_true]
  intro r' hr'
  have hmissed := CaseRun.covers_eq_false_of_misses (hmisses r' hr') hsound hcovers
  rw [hoffset] at hmissed
  simp [hmissed]

/-- A caseless character comes from nothing but itself. -/
theorem eq_of_mem_lowercaseChar (hd : d ∈ lowercaseChar c) (h : isCaseless d = true) :
  d = c
  := by
  obtain ⟨heq, -⟩ | hlong | ⟨r, hr, hcovers, rfl⟩ := mem_lowercaseChar hd
  · exact heq
  · have hboth : ['i', Char.ofNat 0x307].any isCaseless = false := by decide
    exact absurd h (List.any_eq_false.mp hboth d hlong)
  · have hsound : r.isSound = true := by
      have hall := List.all_eq_true.mp lowercaseRuns_sound r hr
      simp only [Bool.and_eq_true] at hall
      exact hall.1.1
    obtain ⟨r', hr', hcovers'⟩ := List.any_eq_true.mp h
    have hmisses := List.all_eq_true.mp caselessRuns_sound r' hr'
    simp only [Bool.and_eq_true, List.all_eq_true] at hmisses
    have hmissed := CaseRun.covers_eq_false_of_misses (hmisses.2 r hr) hsound hcovers
    rw [toNat_ofNat (CaseRun.isValidChar_of_isSound hsound hcovers), hmissed] at hcovers'
    cases hcovers'

theorem lowercaseChar_ne_nil (c : Char) :
  lowercaseChar c ≠ []
  := by
  rw [lowercaseChar]
  split
  · simp
  · split
    · simp
    · split <;> simp

/-! ### Texts -/

theorem lowercaseBetween_eq_nil_iff :
  lowercaseBetween before cs after = [] ↔ cs = []
  := by
  cases cs with
  | nil => simp [lowercaseBetween]
  | cons c r =>
    simp only [lowercaseBetween, List.append_eq_nil_iff, reduceCtorEq, iff_false, not_and]
    intro hfirst
    split at hfirst
    · cases hfirst
    · cases lowercaseChar_ne_nil c hfirst

/-- A caseless character stays where it is. -/
theorem lowercaseBetween_cons_of_isCaseless (h : isCaseless c = true) (before cs after : List Char) :
  lowercaseBetween before (c :: cs) after = c :: lowercaseBetween (c :: before) cs after
  := by
  have hsigma : c ≠ capitalSigma := by
    rintro rfl
    revert h
    decide
  rw [lowercaseBetween, if_neg hsigma, lowercaseChar_of_isLower (isLower_of_isCaseless h)]
  rfl

/-- No caseless characters are added. -/
theorem mem_of_mem_lowercaseBetween (hd : d ∈ lowercaseBetween before cs after)
    (h : isCaseless d = true) :
  d ∈ cs
  := by
  induction cs generalizing before with
  | nil => cases hd
  | cons c r ih =>
    rw [lowercaseBetween] at hd
    obtain hd | hd := List.mem_append.mp hd
    · split at hd
      · have hsigmas : isCaseless (lowercaseSigma before (r ++ after)) = false := by
          rw [lowercaseSigma]
          split
          · decide
          · decide
        obtain rfl := List.mem_singleton.mp hd
        rw [hsigmas] at h
        cases h
      · obtain rfl := eq_of_mem_lowercaseChar hd h
        apply List.mem_cons_self
    · apply List.mem_cons_of_mem
      apply ih hd

end Rehoming.Text
