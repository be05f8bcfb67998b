import Rehoming.Text.Substring
import Mathlib.Tactic.Common
/-!
# Pieces of a text

A text is cut at its first separator, and split at every one of them.  The pieces hold no
separator, and there is one way only to put a text together from such pieces.
-/

namespace Rehoming.Text

variable {sep : Char} {cs piece before after : List Char} {s : String} {pieces : List String}

/-! ### The first separator -/

theorem cutChars_append (h : sep ∉ before) (after : List Char) :
  cutChars sep (before ++ sep :: after) = (before, some after)
  := by
  induction before with
  | nil => simp [cutChars]
  | cons c r ih =>
    obtain ⟨hc, hr⟩ := List.ne_and_not_mem_of_not_mem_cons h
    rw [List.cons_append, cutChars, if_neg (Ne.symm hc), ih hr]

theorem cutChars_of_not_mem (h : sep ∉ cs) :
  cutChars sep cs = (cs, none)
  := by
  induction cs with
  | nil => rfl
  | cons c r ih =>
    obtain ⟨hc, hr⟩ := List.ne_and_not_mem_of_not_mem_cons h
    rw [cutChars, if_neg (Ne.symm hc), ih hr]

/-- A text is cut into what stands before its first separator and what stands behind it. -/
theorem cutChars_eq_some_iff :
  cutChars sep cs = (before, some after) ↔ cs = before ++ sep :: after ∧ sep ∉ before
  := by
  constructor
  · intro h
    by_cases hsep : sep ∈ cs
    · obtain ⟨front, back, rfl, hfront⟩ := List.eq_append_cons_of_mem hsep
      rw [cutChars_append hfront] at h
      simp only [Prod.mk.injEq, Option.some.injEq] at h
      obtain ⟨rfl, rfl⟩ := h
      exact ⟨rfl, hfront⟩
    · rw [cutChars_of_not_mem hsep] at h
      cases h
  · rintro ⟨rfl, hbefore⟩
    apply cutChars_append hbefore

/-! ### Every separator -/

theorem splitChars_of_not_mem (h : sep ∉ piece) :
  splitChars sep piece = [piece]
  := by
  induction piece with
  | nil => rfl
  | cons c r ih =>
    obtain ⟨hc, hr⟩ := List.ne_and_not_mem_of_not_mem_cons h
    rw [splitChars, if_neg (Ne.symm hc), ih hr]

theorem splitChars_append (h : sep ∉ piece) (rest : List Char) :
  splitChars sep (piece ++ sep :: rest) = piece :: splitChars sep rest
  := by
  induction piece with
  | nil => simp [splitChars]
  | cons c r ih =>
    obtain ⟨hc, hr⟩ := List.ne_and_not_mem_of_not_mem_cons h
    rw [List.cons_append, splitChars, if_neg (Ne.symm hc), ih hr]

/-- A text that is put together from pieces without separators is split into them again. -/
theorem split_join (hpieces : pieces ≠ []) (h : ∀ piece ∈ pieces, sep ∉ piece.toList) :
  split sep (join (String.singleton sep) pieces) = pieces
  := by
  induction pieces with
  | nil => cases hpieces rfl
  | cons piece rest ih =>
    have hpiece := h piece List.mem_cons_self
    cases rest with
    | nil => rw [join, split, splitChars_of_not_mem hpiece, List.map_singleton, String.ofList_toList]
    | cons next rest =>
      have hrest := ih (List.cons_ne_nil next rest) fun p hp => h p (List.mem_cons_of_mem piece hp)
      rw [split] at hrest
      rw [join, split, String.toList_append, String.toList_append, String.toList_singleton,
        List.append_assoc, List.singleton_append, splitChars_append hpiece, List.map_cons, hrest,
        String.ofList_toList]
      simp

/-- A text is put together from the pieces it is split into, and none of them holds a separator. -/
theorem join_split (sep : Char) (s : String) :
  join (String.singleton sep) (split sep s) = s ∧ ∀ piece ∈ split sep s, sep ∉ piece.toList
  := by
  generalize hcs : s.toList = cs
  obtain rfl : s = String.ofList cs := by rw [← hcs, String.ofList_toList]
  clear hcs
  induction hlength : cs.length using Nat.strongRecOn generalizing cs with
  | _ n ih =>
    rw [split, String.toList_ofList]
    by_cases hsep : sep ∈ cs
    · obtain ⟨piece, rest, rfl, hpiece⟩ := List.eq_append_cons_of_mem hsep
      rw [List.length_append, List.length_cons] at hlength
      obtain ⟨hjoin, hpieces⟩ := ih rest.length (by omega) rest rfl
      rw [split, String.toList_ofList] at hjoin hpieces
      rw [splitChars_append hpiece]
      constructor
      · obtain ⟨next, later, hnext⟩ := List.exists_cons_of_ne_nil (splitChars_ne_nil sep rest)
        rw [hnext, List.map_cons] at hjoin
        rw [List.map_cons, hnext, List.map_cons, join, hjoin]
        · simp [String.ext_iff]
        · apply List.cons_ne_nil
      · simpa [hpiece] using hpieces
    · rw [splitChars_of_not_mem hsep]
      simpa [join] using hsep

/-- The pieces of a text are those without separators that it is put together from. -/
theorem split_eq_iff :
  split sep s = pieces
    ↔ pieces ≠ [] ∧ (∀ piece ∈ pieces, sep ∉ piece.toList) ∧ join (String.singleton sep) pieces = s
  := by
  constructor
  · rintro rfl
    obtain ⟨hjoin, hpieces⟩ := join_split sep s
    exact ⟨by simp [split, splitChars_ne_nil], hpieces, hjoin⟩
  · rintro ⟨hne, hpieces, rfl⟩
    apply split_join hne hpieces

end Rehoming.Text
