import Rehoming.Text.Blank
import Mathlib.Data.List.DropRight
/-!
# Trimming

Trimming a trimmed text changes nothing, and trimming keeps what is blank blank and what is
not blank not blank.  White space that is put at the ends of a text is trimmed off again.
-/

namespace Rehoming.Text

/-- A front part of a list that begins without white space begins without it too. -/
theorem trimFront_of_isPrefix {cs r : List Char} (h : r <+: trimFront cs) :
  trimFront r = r
  := by
  apply List.dropWhile_eq_self_iff.mpr
  intro hr
  have hcs : 0 < (trimFront cs).length := Nat.lt_of_lt_of_le hr h.length_le
  have hfirst := List.dropWhile_get_zero_not isWhite cs hcs
  rw [h.getElem hr]
  apply hfirst

theorem trimChars_trimChars (cs : List Char) :
  trimChars (trimChars cs) = trimChars cs
  := by
  have hprefix : trimChars cs <+: trimFront cs := List.rdropWhile_prefix isWhite _
  have hfront : trimFront (trimChars cs) = trimChars cs := trimFront_of_isPrefix hprefix
  rw [trimChars, hfront]
  apply List.rdropWhile_idempotent

theorem trim_trim (s : String) :
  trim (trim s) = trim s
  := by
  rw [trim, trim, String.toList_ofList, trimChars_trimChars]

theorem isBlank_trim (s : String) :
  isBlank (trim s) = isBlank s
  := by
  rw [Bool.eq_iff_iff, isBlank_iff, isBlank_iff, trim_trim]

/-- What is trimmed off is white space. -/
theorem exists_eq_append_trimChars (cs : List Char) :
  ∃ front back, cs = front ++ trimChars cs ++ back ∧ (∀ c ∈ front ++ back, isWhite c = true)
  := by
  refine ⟨cs.takeWhile isWhite, (trimFront cs).rtakeWhile isWhite, ?_, ?_⟩
  · have hback : trimChars cs ++ (trimFront cs).rtakeWhile isWhite = trimFront cs :=
      List.rdropWhile_append_rtakeWhile ..
    rw [List.append_assoc, hback, trimFront, List.takeWhile_append_dropWhile]
  · intro c hc
    obtain hc | hc := List.mem_append.mp hc
    · apply List.mem_takeWhile_imp hc
    · apply List.mem_rtakeWhile_imp hc

/-- White space at the front does not count. -/
theorem trimChars_append_left {front : List Char} (h : ∀ c ∈ front, isWhite c = true) (cs : List Char) :
  trimChars (front ++ cs) = trimChars cs
  := by
  have hfront : trimFront (front ++ cs) = trimFront cs := List.dropWhile_append_of_pos h
  rw [trimChars, hfront, ← trimChars]

/-- White space at the back does not count. -/
theorem trimChars_append_right {back : List Char} (h : ∀ c ∈ back, isWhite c = true) (cs : List Char) :
  trimChars (cs ++ back) = trimChars cs
  := by
  have hback : back.dropWhile isWhite = [] := dropWhile_eq_nil_iff.mpr (List.all_eq_true.mpr h)
  simp only [trimChars, trimFront, List.dropWhile_append, hback]
  split
  next hblank => rw [List.isEmpty_iff.mp hblank]
  next =>
    rw [List.reverse_append, List.dropWhile_append_of_pos]
    simpa using h

theorem trimChars_of_not_isWhite {cs : List Char} (h : ∀ c ∈ cs, isWhite c = false) :
  trimChars cs = cs
  := by
  obtain ⟨front, back, heq, hwhite⟩ := exists_eq_append_trimChars cs
  have hnone : front ++ back = [] := by
    apply List.eq_nil_iff_forall_not_mem.mpr
    intro c hc
    have hmem : c ∈ cs := by
      rw [heq]
      simp only [List.mem_append] at hc ⊢
      tauto
    have hcolor := hwhite c hc
    rw [h c hmem] at hcolor
    cases hcolor
  obtain ⟨rfl, rfl⟩ := List.append_eq_nil_iff.mp hnone
  simpa using heq.symm

/-- What is given and not blank is trimmed and not blank. -/
theorem nonBlank_eq_some {s : Option String} {t : String} (h : nonBlank s = some t) :
  isBlank t = false ∧ trim t = t
  := by
  cases s with
  | none => cases h
  | some s =>
    rw [nonBlank] at h
    split at h
    case isTrue => cases h
    case isFalse hblank =>
      obtain rfl := Option.some.inj h
      constructor
      · rw [isBlank_iff] at hblank
        rw [← Bool.not_eq_true, isBlank_iff, trim_trim]
        exact hblank
      · apply trim_trim

end Rehoming.Text
