import Mathlib
/-!
# Counting by key

Items that are counted key by key, each under the key that it has: with keys that are all
different no item is counted twice, and none is left out if the keys are all there are.
-/

namespace Rehoming

variable {α κ : Type} [BEq κ] [LawfulBEq κ] {keys : List κ}

/-- Each item is counted under at most one of some different keys. -/
theorem sum_countP_key (key : α → κ) (hkeys : keys.Nodup) (items : List α) :
  (keys.map fun k => items.countP (key · == k)).sum = items.countP (keys.contains <| key ·)
  := by
  induction keys with
  | nil => simp
  | cons k rest ih =>
    obtain ⟨hk, hrest⟩ := List.nodup_cons.mp hkeys
    rw [List.map_cons, List.sum_cons, ih hrest,
      List.countP_eq_countP_filter_add items ((k :: rest).contains <| key ·) (key · == k),
      List.countP_filter, List.countP_filter]
    congr 1
    · apply List.countP_congr
      intro a _
      simp +contextual
    · apply List.countP_congr
      intro a _
      by_cases hkey : key a = k
      · simp [hkey, hk]
      · simp [hkey]

/-- Each item is counted once if every key that occurs is there. -/
theorem sum_countP_key_eq_length (key : α → κ) (hkeys : keys.Nodup) {items : List α}
    (hall : ∀ a ∈ items, key a ∈ keys) :
  (keys.map fun k => items.countP (key · == k)).sum = items.length
  := by
  rw [sum_countP_key key hkeys, List.countP_eq_length]
  intro a ha
  exact List.contains_iff_mem.mpr (hall a ha)

/-- No item is counted twice. -/
theorem sum_countP_key_le_length (key : α → κ) (hkeys : keys.Nodup) (items : List α) :
  (keys.map fun k => items.countP (key · == k)).sum ≤ items.length
  := by
  rw [sum_countP_key key hkeys]
  exact List.countP_le_length

end Rehoming
