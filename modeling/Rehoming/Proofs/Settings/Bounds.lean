import Rehoming.Settings.Basic
import Mathlib.Tactic.Common
/-!
# Settings that can be used

What the limits of the workflow have in common, whatever variables they have been read from:
there is room for the references that may be given, and no more slots than 64 bits can count.
-/

namespace Rehoming

/-- That there may be some references, that there are slots for them, and that the slots can be
counted. -/
structure Policy.HasRoom (p : Policy) : Prop where
  references : 0 < p.maxReferences
  slots : p.maxReferences ≤ p.maxReferenceSlots
  word : p.maxReferenceSlots < Number.wordLimit 64

theorem bind_eq_ok_iff {ε α β : Type} {x : Except ε α} {f : α → Except ε β} {b : β} :
  (x >>= f) = .ok b ↔ ∃ a, x = .ok a ∧ f a = .ok b
  := by
  cases x with
  | error e => simp [bind, Except.bind]
  | ok a => simp [bind, Except.bind]

namespace Settings

variable {vars : Variables} {p q : Policy} {settings : Settings}

/-- A number that has been read is below the limit, as the default is. -/
theorem numberOr_lt {variableName : String} {limit default n : Nat}
    (h : numberOr vars variableName limit default = .ok n) (hdefault : default < limit) :
  n < limit
  := by
  rw [numberOr] at h
  split at h
  next =>
    obtain rfl := Except.ok.inj h
    exact hdefault
  next raw _ =>
    split at h
    next m hm =>
      obtain rfl := Except.ok.inj h
      rw [Number.numeral?, Option.filter_eq_some_iff] at hm
      simpa using hm.2
    next => cases h

theorem word_of_policyOf (h : policyOf vars = .ok p) :
  p.maxReferenceSlots < Number.wordLimit 64
  := by
  simp only [policyOf, bind_eq_ok_iff] at h
  obtain ⟨_, -, _, -, slots, hslots, _, -, _, -, _, -, hp⟩ := h
  obtain rfl := Except.ok.inj hp
  apply numberOr_lt hslots (by decide)

/-- Limits that fit each other leave room for the references. -/
theorem consistent_eq_ok (h : consistent p = .ok q) :
  q = p ∧ 0 < p.maxReferences ∧ p.maxReferences ≤ p.maxReferenceSlots
  := by
  rw [consistent] at h
  split at h
  case isTrue => cases h
  split at h
  case isTrue => cases h
  next hreferences =>
    obtain rfl := Except.ok.inj h
    refine ⟨rfl, ?_, ?_⟩
    all_goals omega

/-- Whatever the variables are, settings that can be used leave room for the references. -/
theorem hasRoom_of_ofVariables (h : ofVariables vars = .ok settings) :
  settings.policy.HasRoom
  := by
  simp only [ofVariables, bind_eq_ok_iff] at h
  obtain ⟨_, -, read, hread, checked, hchecked, hsettings⟩ := h
  obtain rfl := Except.ok.inj hsettings
  obtain ⟨rfl, hreferences, hslots⟩ := consistent_eq_ok hchecked
  exact ⟨hreferences, hslots, word_of_policyOf hread⟩

end Settings

end Rehoming
