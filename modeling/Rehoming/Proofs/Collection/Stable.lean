import Mathlib.Tactic.Common
/-!
# Stable sorting

A sort by a comparison leaves some items in either order.  Merge sort is stable: such items stay
as they were, so that whatever held from an item to those behind it still holds between them.
-/

namespace Rehoming

variable {α : Type} (le : α → α → Bool) {l : List α}
  (htrans : ∀ a b c, le a b = true → le b c = true → le a c = true)
  (htotal : ∀ a b, (le a b || le b a) = true)

include htrans htotal

/-- Sorting leaves items of which any two may stand in either order as they were. -/
theorem filter_mergeSort {p : α → Bool} (hp : ∀ a b, p a = true → p b = true → le a b = true) :
  (l.mergeSort le).filter p = l.filter p
  := by
  have hsub : (l.filter p).Sublist (l.mergeSort le) := by
    apply List.sublist_mergeSort htrans htotal
    · apply List.pairwise_of_forall_mem_list
      intro a ha b hb
      exact hp a b (List.mem_filter.mp ha).2 (List.mem_filter.mp hb).2
    · exact List.filter_sublist
  have hfiltered := hsub.filter p
  rw [List.filter_filter] at hfiltered
  simp only [Bool.and_self] at hfiltered
  have hlength := ((List.mergeSort_perm l le).filter p).length_eq
  exact (hfiltered.eq_of_length hlength.symm).symm

/-- Sorted items follow the comparison, and where it leaves two of them in either order they follow
the order that they had. -/
theorem pairwise_mergeSort_stable {r : α → α → Prop} (hl : l.Pairwise r) :
  (l.mergeSort le).Pairwise fun a b => le a b = true ∧ (le b a = true → r a b)
  := by
  have hsorted := List.pairwise_mergeSort htrans htotal l
  rw [List.pairwise_iff_forall_sublist] at hsorted ⊢
  intro a b hsub
  refine ⟨hsorted hsub, ?_⟩
  intro hba
  -- The items that may stand in either order with `a` are as they were, `a` and `b` among them.
  let p (c : α) : Bool := le c a && le a c
  have hp : ∀ c d, p c = true → p d = true → le c d = true := by
    intro c d hc hd
    rw [Bool.and_eq_true] at hc hd
    exact htrans c a d hc.1 hd.2
  have haa : le a a = true := by simpa using htotal a a
  have ha : p a = true := Bool.and_eq_true_iff.mpr ⟨haa, haa⟩
  have hb : p b = true := Bool.and_eq_true_iff.mpr ⟨hba, hsorted hsub⟩
  have hboth := hsub.filter p
  rw [filter_mergeSort le htrans htotal hp, List.filter_cons_of_pos ha, List.filter_cons_of_pos hb,
    List.filter_nil] at hboth
  exact List.pairwise_iff_forall_sublist.mp (hl.filter p) hboth

end Rehoming
