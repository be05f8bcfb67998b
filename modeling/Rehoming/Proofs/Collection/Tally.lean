import Rehoming.Collection.Tally
import Mathlib.Algebra.Order.Ring.Nat
/-!
# What tallies list

Counting keys one by one, in any order, leads to the list of those that occur, in their own order,
each with the number of times that it does.
-/

namespace Rehoming.Tally

variable {κ : Type} {keys : List κ} {times times' : κ → Nat}

/-- Those of some keys that occur, each with how often it does. -/
def listing (keys : List κ) (times : κ → Nat) : List (κ × Nat) :=
  (keys.filter fun k => times k ≠ 0).map fun k => (k, times k)

theorem listing_cons_of_eq_zero {k : κ} (h : times k = 0) :
  listing (k :: keys) times = listing keys times
  := by
  rw [listing, List.filter_cons_of_neg (by simpa using h)]
  rfl

theorem listing_cons_of_ne_zero {k : κ} (h : times k ≠ 0) :
  listing (k :: keys) times = (k, times k) :: listing keys times
  := by
  rw [listing, List.filter_cons_of_pos (by simpa using h)]
  rfl

theorem listing_zero (keys : List κ) :
  listing keys (fun _ => 0) = []
  := by
  simp [listing]

theorem listing_congr (h : ∀ k ∈ keys, times k = times' k) :
  listing keys times = listing keys times'
  := by
  have hoccur : (keys.filter fun k => times k ≠ 0) = keys.filter fun k => times' k ≠ 0 := by
    apply List.filter_congr
    intro k hk
    rw [h k hk]
  rw [listing, listing, ← hoccur]
  apply List.map_congr_left
  intro k hk
  rw [h k (List.mem_filter.mp hk).1]

theorem mem_of_mem_listing {e : κ × Nat} (h : e ∈ listing keys times) :
  e.1 ∈ keys
  := by
  obtain ⟨k, hk, rfl⟩ := List.mem_map.mp h
  exact (List.mem_filter.mp hk).1

/-- Nothing is missing in the sum of the numbers that are listed. -/
theorem sum_listing (keys : List κ) (times : κ → Nat) :
  ((listing keys times).map Prod.snd).sum = (keys.map times).sum
  := by
  induction keys with
  | nil => rfl
  | cons k rest ih =>
    rw [List.map_cons, List.sum_cons, ← ih]
    by_cases hzero : times k = 0
    · rw [listing_cons_of_eq_zero hzero, hzero, Nat.zero_add]
    · rw [listing_cons_of_ne_zero hzero, List.map_cons, List.sum_cons]

/-! ### One by one -/

section Count

variable [LT κ] [DecidableLT κ] [DecidableEq κ] {k : κ}

theorem count_of_below {entries : List (κ × Nat)} (h : ∀ e ∈ entries, k < e.1) :
  count k entries = (k, 1) :: entries
  := by
  cases entries with
  | nil => rfl
  | cons e rest => rw [count, if_pos (h e List.mem_cons_self)]

variable (hasymm : ∀ a b : κ, a < b → ¬ b < a)

include hasymm

/-- One more occurrence of a key is listed under it. -/
theorem count_listing (hkeys : keys.Pairwise (· < ·)) (hk : k ∈ keys)
    (hmore : times' k = times k + 1) (hothers : ∀ j, j ≠ k → times' j = times j) :
  count k (listing keys times) = listing keys times'
  := by
  have hne : ∀ {a b : κ}, a < b → a ≠ b := by
    rintro a _ h rfl
    exact hasymm a a h h
  induction keys with
  | nil => cases hk
  | cons first rest ih =>
    obtain ⟨hbelow, hrest⟩ := List.pairwise_cons.mp hkeys
    obtain rfl | hlater := List.mem_cons.mp hk
    · have hsame : listing rest times' = listing rest times :=
        listing_congr fun j hj => hothers j (hne (hbelow j hj)).symm
      have hoccurs : times' k ≠ 0 := by omega
      rw [listing_cons_of_ne_zero hoccurs, hsame, hmore]
      by_cases hzero : times k = 0
      · rw [listing_cons_of_eq_zero hzero, hzero, Nat.zero_add]
        apply count_of_below
        intro e he
        exact hbelow e.1 (mem_of_mem_listing he)
      · rw [listing_cons_of_ne_zero hzero, count, if_neg fun h => hasymm k k h h, if_pos rfl]
    · have hlt : first < k := hbelow k hlater
      have hsame : times' first = times first := hothers first (hne hlt)
      by_cases hzero : times first = 0
      · rw [listing_cons_of_eq_zero hzero, listing_cons_of_eq_zero (hsame.trans hzero),
          ih hrest hlater]
      · have hoccurs : times' first ≠ 0 := by omega
        rw [listing_cons_of_ne_zero hzero, listing_cons_of_ne_zero hoccurs, hsame, count,
          if_neg (hasymm first k hlt), if_neg (hne hlt).symm, ih hrest hlater]

/-- What is listed after some keys have been counted one by one. -/
theorem foldl_count_listing (hkeys : keys.Pairwise (· < ·)) {items : List κ}
    (hitems : ∀ k ∈ items, k ∈ keys) (times : κ → Nat) :
  items.foldl (fun entries k => count k entries) (listing keys times)
    = listing keys fun j => times j + items.count j
  := by
  induction items generalizing times with
  | nil => rfl
  | cons k rest ih =>
    obtain ⟨hk, hrest⟩ := List.forall_mem_cons.mp hitems
    have hcounted : count k (listing keys times)
        = listing keys fun j => times j + [k].count j := by
      apply count_listing hasymm hkeys hk
      · rw [List.count_singleton_self]
      · intro j hj
        rw [List.count_singleton, if_neg (by simpa using hj.symm), Nat.add_zero]
    rw [List.foldl_cons, hcounted, ih hrest]
    congr 1
    funext j
    rw [Nat.add_assoc, ← List.count_append, List.singleton_append]

/-- What is listed after some keys, and nothing else, have been counted one by one. -/
theorem foldl_count_nil (hkeys : keys.Pairwise (· < ·)) {items : List κ}
    (hitems : ∀ k ∈ items, k ∈ keys) :
  items.foldl (fun entries k => count k entries) [] = listing keys fun j => items.count j
  := by
  have hcounted := foldl_count_listing hasymm hkeys hitems fun _ => 0
  simpa only [listing_zero, Nat.zero_add] using hcounted

end Count

end Rehoming.Tally
