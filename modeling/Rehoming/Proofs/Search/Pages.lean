import Rehoming.Search.Criteria
import Mathlib.Data.List.Nodup
/-!
# Pages of matches

The pages of a search, one after the other, are its matches in order, each of them once; there
are as many pages as it takes to show them all.
-/

namespace Rehoming

/-- The first parts of some length, one after the other, are the front of a list. -/
theorem flatMap_range_take_drop {α : Type} (l : List α) (size count : Nat) :
  ((List.range count).flatMap fun k => (l.drop (k * size)).take size) = l.take (count * size)
  := by
  induction count with
  | zero => simp
  | succ k ih =>
    rw [List.range_succ, List.flatMap_append, ih, List.flatMap_singleton, Nat.succ_mul, List.take_add]

namespace Criteria

variable {c : Criteria} {records : List Application} {a : Application}

/-- The matches in order are the matches. -/
theorem perm_sorted (c : Criteria) (records : List Application) :
  (c.sorted records).Perm (records.filter c.finds)
  := List.mergeSort_perm ..

theorem mem_sorted_iff :
  a ∈ c.sorted records ↔ a ∈ records ∧ c.finds a = true
  := by
  rw [(c.perm_sorted records).mem_iff, List.mem_filter]

theorem nodup_sorted (h : records.Nodup) :
  (c.sorted records).Nodup
  := by
  rw [(c.perm_sorted records).nodup_iff]
  exact h.filter _

theorem limit_of_pos (filters : Filters) (options : SearchOptions) (defaultLimit maxLimit : Nat) :
  0 < (Criteria.of filters options defaultLimit maxLimit).limit
  := by
  change 0 < min (max 1 maxLimit) (max 1 (options.limit.getD defaultLimit))
  omega

end Criteria

/-- The pages have room for everything. -/
theorem Pagination.total_le (page total : Nat) {limit : Nat} (h : 0 < limit) :
  total ≤ (of page limit total).totalPages * limit
  := by
  have hpages : (of page limit total).totalPages = (total + limit - 1) / limit := by
    rw [of]
    exact if_neg (Nat.ne_of_gt h)
  have hdivision := Nat.div_add_mod (total + limit - 1) limit
  have hrest := Nat.mod_lt (total + limit - 1) h
  rw [hpages, Nat.mul_comm]
  omega

/-- All pages together are the matches in order. -/
theorem Criteria.flatMap_pageOf (c : Criteria) (records : List Application) {page count : Nat}
    (hlimit : 0 < c.limit)
    (hcount : (Pagination.of page c.limit (c.pageOf records).total).totalPages ≤ count) :
  ((List.range count).flatMap fun k => ({ c with page := k + 1 }.pageOf records).applications)
    = c.sorted records
  := by
  have htotal := Pagination.total_le page (c.pageOf records).total hlimit
  have hroom := Nat.mul_le_mul_right c.limit hcount
  have hparts := flatMap_range_take_drop (c.sorted records) c.limit count
  rw [List.take_of_length_le (Nat.le_trans htotal hroom)] at hparts
  exact hparts

end Rehoming
