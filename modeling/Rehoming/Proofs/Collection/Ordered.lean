import Rehoming.Collection.TextSet
import Mathlib.Data.List.Perm.Basic
/-!
# Sorted collections

A set of texts is told by its members, each of which it holds once.  A set or a dictionary
that is filled again with what it holds, in the order of its list, is the same as before.
-/

namespace Rehoming

namespace TextSet

theorem nodup (set : TextSet) :
  set.toList.Nodup
  := by
  apply set.increasing.imp
  rintro a _ h rfl
  exact String.lt_irrefl a h

/-- Sets of texts are equal if they have the same members. -/
theorem ext_mem {a b : TextSet} (h : ∀ s, s ∈ a.toList ↔ s ∈ b.toList) :
  a = b
  := by
  have hperm : a.toList.Perm b.toList := (List.perm_ext_iff_of_nodup a.nodup b.nodup).mpr h
  have hlist : a.toList = b.toList := by
    apply hperm.eq_of_pairwise _ a.increasing b.increasing
    intro s t _ _ hst hts
    exact absurd hts (String.lt_asymm hst)
  obtain ⟨l, hl⟩ := a
  obtain rfl : l = b.toList := hlist
  rfl

theorem ofList_toList (set : TextSet) :
  ofList set.toList = set
  := ext_mem fun _ => mem_ofList

end TextSet

namespace Dictionary

variable {α : Type}

instance (d : List (String × α)) : Decidable (Ordered d) :=
  inferInstanceAs (Decidable (List.Pairwise _ d))

/-- An entry whose key is above all others comes last. -/
theorem insert_of_above {k : String} {v : α} {d : List (String × α)}
    (h : ∀ e ∈ d, e.1 < k) :
  insert k v d = d ++ [(k, v)]
  := by
  induction d with
  | nil => rfl
  | cons e rest ih =>
    have he : e.1 < k := h e List.mem_cons_self
    have hne : k ≠ e.1 := by
      rintro rfl
      exact String.lt_irrefl _ he
    rw [insert, if_neg (String.lt_asymm he), if_neg hne, List.cons_append,
      ih fun e' he' => h e' (List.mem_cons_of_mem _ he')]

/-- The value that has been put under a key is found there. -/
theorem get?_insert_self (k : String) (v : α) (d : List (String × α)) :
  get? k (insert k v d) = some v
  := by
  induction d with
  | nil => simp [insert, get?]
  | cons e rest ih =>
    rw [insert]
    split
    · simp [get?]
    · split
      · simp [get?]
      · next hne =>
        rw [get?, List.find?_cons_of_neg (by simpa using Ne.symm hne)]
        exact ih

end Dictionary

end Rehoming
