import Rehoming.Proofs.Search.Pages
import Mathlib.Data.List.Perm.Basic
/-!
# The order of matches

The matches of a search are in strict order: by the field that is chosen, a missing value before
every other one, then by name, and all of it the other way round if that is asked for.  So the
order in which a store lists its records makes no difference.
-/

namespace Rehoming

/-- That a value is missing or below another one that is there. -/
def Lower {α : Type} [LT α] (x y : Option α) : Prop :=
  ∃ b, y = some b ∧ ∀ a, x = some a → a < b

/-- That an application comes before another one by a field. -/
def SortField.Below (field : SortField) (a b : Application) : Prop :=
  match field with
  | .createdAt => a.createdAt < b.createdAt
  | .updatedAt => a.updatedAt < b.updatedAt
  | .submittedAt => Lower a.submittedAt b.submittedAt
  | .status => a.status.label < b.status.label
  | .priority => a.priority.rank < b.priority.rank
  | .score => Lower a.score b.score

/-- That an application comes before another one by a field or, if the field does not tell, by
its name. -/
def SortField.Ascends (field : SortField) (a b : Application) : Prop :=
  field.Below a b ∨ ¬field.Below b a ∧ a.applicationId.text < b.applicationId.text

/-- That an application comes before another one in a search. -/
def Criteria.Precedes (c : Criteria) (a b : Application) : Prop :=
  match c.sortOrder with
  | .asc => c.sortBy.Ascends a b
  | .desc => c.sortBy.Ascends b a

instance : Std.TransOrd Time.Instant :=
  inferInstanceAs (Std.TransCmp (compareOn Time.Instant.ticks))

namespace Criteria

variable {c : Criteria} {field : SortField} {a b : Application} {records records' : List Application}

/-! ### Single fields -/

/-- Applications are in order by a value that may be missing if the values are. -/
theorem transCmp_compareOption {α : Type} [Ord α] [Std.TransOrd α] (f : Application → Option α) :
  Std.TransCmp fun a b => compareOption (f a) (f b)
  := by
  have heq : (fun a b => compareOption (f a) (f b)) = compareOn f := by
    funext a b
    rw [compareOn]
    cases f a with
    | none =>
      cases f b with
      | _ => rfl
    | some _ =>
      cases f b with
      | _ => rfl
  rw [heq]
  infer_instance

theorem compareOption_eq_lt_iff {α : Type} [Ord α] [LT α]
    (h : ∀ a b : α, Ord.compare a b = .lt ↔ a < b) {x y : Option α} :
  compareOption x y = .lt ↔ Lower x y
  := by
  cases x with
  | none =>
    cases y with
    | _ => simp [compareOption, Lower]
  | some a =>
    cases y with
    | _ => simp [compareOption, Lower, h]

instance (field : SortField) : Std.TransCmp (compareField field) := by
  cases field with
  | createdAt => exact inferInstanceAs (Std.TransCmp (compareOn Application.createdAt))
  | updatedAt => exact inferInstanceAs (Std.TransCmp (compareOn Application.updatedAt))
  | submittedAt => exact transCmp_compareOption Application.submittedAt
  | status => exact inferInstanceAs (Std.TransCmp (compareOn fun a : Application => a.status.label))
  | priority => exact inferInstanceAs (Std.TransCmp (compareOn fun a : Application => a.priority.rank))
  | score => exact transCmp_compareOption Application.score

theorem compareField_eq_lt_iff :
  compareField field a b = .lt ↔ field.Below a b
  := by
  have htext : ∀ s t : String, Ord.compare s t = .lt ↔ s < t := by
    intro s t
    exact compareOfLessAndEq_eq_lt
  have htime : ∀ s t : Time.Instant, Ord.compare s t = .lt ↔ s < t := by
    intro s t
    exact Int.compare_eq_lt
  cases field with
  | createdAt => apply htime
  | updatedAt => apply htime
  | submittedAt => apply compareOption_eq_lt_iff htime
  | status => apply htext
  | priority => exact Nat.compare_eq_lt
  | score => exact compareOption_eq_lt_iff fun _ _ => Nat.compare_eq_lt

/-! ### The whole order -/

/-- The order of the matches from the first to the last. -/
def ascending (field : SortField) : Application → Application → Ordering :=
  compareLex (compareField field) (compareOn fun a => a.applicationId.text)

instance (field : SortField) : Std.TransCmp (ascending field) :=
  inferInstanceAs (Std.TransCmp (compareLex _ _))

theorem compare_of_asc (h : c.sortOrder = .asc) (a b : Application) :
  c.compare a b = ascending c.sortBy a b
  := by
  rw [compare, h]
  rfl

theorem compare_of_desc (h : c.sortOrder = .desc) (a b : Application) :
  c.compare a b = ascending c.sortBy b a
  := by
  have hswap : ascending c.sortBy b a = (ascending c.sortBy a b).swap := Std.OrientedCmp.eq_swap
  rw [compare, h, hswap]
  rfl

instance (c : Criteria) : Std.TransCmp c.compare := by
  cases horder : c.sortOrder with
  | asc =>
    have heq : c.compare = ascending c.sortBy := by
      funext a b
      rw [compare_of_asc horder]
    rw [heq]
    infer_instance
  | desc =>
    have heq : c.compare = fun a b => ascending c.sortBy b a := by
      funext a b
      rw [compare_of_desc horder]
    rw [heq]
    exact Std.TransCmp.opposite

theorem ascending_eq_lt_iff :
  ascending field a b = .lt ↔ field.Ascends a b
  := by
  have hname : Ord.compare a.applicationId.text b.applicationId.text = .lt
      ↔ a.applicationId.text < b.applicationId.text := compareOfLessAndEq_eq_lt
  have hbehind : compareField field a b = .gt ↔ field.Below b a := by
    rw [Std.OrientedCmp.gt_iff_lt, compareField_eq_lt_iff]
  rw [ascending, compareLex, Ordering.then_eq_lt, compareOn, hname, SortField.Ascends,
    ← compareField_eq_lt_iff, ← hbehind]
  cases compareField field a b with
  | _ => simp

theorem compare_eq_lt_iff :
  c.compare a b = .lt ↔ c.Precedes a b
  := by
  rw [Precedes]
  cases horder : c.sortOrder with
  | asc => rw [compare_of_asc horder, ascending_eq_lt_iff]
  | desc => rw [compare_of_desc horder, ascending_eq_lt_iff]

theorem applicationId_eq_of_ascending (h : ascending field a b = .eq) :
  a.applicationId = b.applicationId
  := by
  rw [ascending, compareLex, Ordering.then_eq_eq] at h
  have htext : a.applicationId.text = b.applicationId.text := Std.LawfulEqOrd.eq_of_compare h.2
  exact congrArg ApplicationId.mk htext

/-- Only applications of one name have the same place. -/
theorem applicationId_eq_of_compare (h : c.compare a b = .eq) :
  a.applicationId = b.applicationId
  := by
  cases horder : c.sortOrder with
  | asc =>
    rw [compare_of_asc horder] at h
    apply applicationId_eq_of_ascending h
  | desc =>
    rw [compare_of_desc horder] at h
    exact (applicationId_eq_of_ascending h).symm

/-! ### Matches in order -/

/-- Applications of different names are sorted strictly. -/
theorem pairwise_sorted (c : Criteria) (h : (records.map (·.applicationId)).Nodup) :
  (c.sorted records).Pairwise fun a b => c.compare a b = .lt
  := by
  have hnames : ((c.sorted records).map (·.applicationId)).Nodup := by
    rw [((c.perm_sorted records).map _).nodup_iff]
    exact h.sublist (List.filter_sublist.map _)
  have hdifferent := List.pairwise_map.mp hnames
  have hsorted : (c.sorted records).Pairwise fun a b => (c.compare a b).isLE = true := by
    apply List.pairwise_mergeSort
    · intro a b d
      apply Std.TransCmp.isLE_trans
    · intro a b
      have hswap : c.compare b a = (c.compare a b).swap := Std.OrientedCmp.eq_swap
      rw [hswap]
      cases c.compare a b with
      | _ => rfl
  apply (hsorted.and hdifferent).imp
  rintro a b ⟨hle, hne⟩
  cases hcompare : c.compare a b with
  | lt => rfl
  | eq => cases hne (applicationId_eq_of_compare hcompare)
  | gt =>
    rw [hcompare] at hle
    cases hle

/-- The matches do not depend on the order in which the applications are listed. -/
theorem sorted_of_perm (c : Criteria) (h : (records.map (·.applicationId)).Nodup)
    (hperm : records'.Perm records) :
  c.sorted records' = c.sorted records
  := by
  have hnames : (records'.map (·.applicationId)).Nodup := (hperm.map _).nodup_iff.mpr h
  have hsame : (c.sorted records').Perm (c.sorted records) := by
    apply (c.perm_sorted records').trans
    apply (hperm.filter _).trans
    apply (c.perm_sorted records).symm
  apply hsame.eq_of_pairwise _ (c.pairwise_sorted hnames) (c.pairwise_sorted h)
  intro a b _ _ hab hba
  have hback : c.compare a b = .gt := Std.OrientedCmp.gt_iff_lt.mpr hba
  rw [hab] at hback
  cases hback

end Criteria

end Rehoming
