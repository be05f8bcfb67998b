import Rehoming.Proofs.Collection.Stable
import Rehoming.Question.Registry
/-!
# The form of a rescue

A rescue asks the core questions and its own, as far as they are switched on.  Its form holds each
of them once, by category, within a category by display order, and where that is the same in the
order in which they were registered.  The other questions leave no trace in the form.
-/

namespace Rehoming

/-! ### The questions of a rescue -/

/-- Switched on, and a core question or one of the rescue's own.  A question of core scope that
names a rescue is neither. -/
def Question.IsAskedBy (rescue : RescueId) (q : Question) : Prop :=
  q.isEnabled = true ∧ (q.isCore = true ∨ q.scope = .rescueSpecific ∧ q.rescueId = some rescue)

theorem Question.appliesTo_iff {q : Question} {rescue : RescueId} :
  q.appliesTo rescue = true ↔ q.IsAskedBy rescue
  := by
  cases hscope : q.scope <;> simp [appliesTo, IsAskedBy, isCore, hscope]

instance (rescue : RescueId) : DecidablePred (Question.IsAskedBy rescue) :=
  fun _ => decidable_of_iff _ Question.appliesTo_iff

/-- A question with its place in the registry stands before another one: in an earlier category,
earlier in the display order of the same one, or registered earlier at the same place there. -/
inductive Precedes : Question × Nat → Question × Nat → Prop where
  | category {a b : Question × Nat} (hcategory : a.1.category.rank < b.1.category.rank) : Precedes a b
  | displayOrder {a b : Question × Nat} (hcategory : a.1.category = b.1.category)
      (horder : a.1.displayOrder < b.1.displayOrder) : Precedes a b
  | registered {a b : Question × Nat} (hcategory : a.1.category = b.1.category)
      (horder : a.1.displayOrder = b.1.displayOrder) (hplace : a.2 < b.2) : Precedes a b

/-- The questions of a rescue, each at its place in the registry, in the order of the form. -/
structure IsForm (questions : Registry) (rescue : RescueId) (entries : List (Question × Nat)) : Prop where
  nodup : entries.Nodup
  mem_iff : ∀ (q : Question) (place : Nat),
    (q, place) ∈ entries ↔ questions[place]? = some q ∧ q.IsAskedBy rescue
  ordered : entries.Pairwise Precedes

/-- Registries that hold the same questions of a rescue in the same order, with any others between
them. -/
inductive AlikeFor (rescue : RescueId) : Registry → Registry → Prop where
  | nil : AlikeFor rescue [] []
  | both (q : Question) {l m : Registry} (h : AlikeFor rescue l m) : AlikeFor rescue (q :: l) (q :: m)
  | left {q : Question} (hq : ¬ q.IsAskedBy rescue) {l m : Registry} (h : AlikeFor rescue l m) :
      AlikeFor rescue (q :: l) m
  | right {q : Question} (hq : ¬ q.IsAskedBy rescue) {l m : Registry} (h : AlikeFor rescue l m) :
      AlikeFor rescue l (q :: m)

/-! ### The order of a form -/

theorem Category.rank_inj {a b : Category} :
  a.rank = b.rank ↔ a = b
  := by
  cases a <;> cases b <;> decide

namespace Registry

variable {questions others : Registry} {rescue : RescueId} {a b : Question}

theorem inFormOrder_iff :
  inFormOrder a b = true
    ↔ a.category.rank < b.category.rank
      ∨ a.category = b.category ∧ a.displayOrder ≤ b.displayOrder
  := by
  simp [inFormOrder, Category.rank_inj]

theorem inFormOrder_trans (a b c : Question) (hab : inFormOrder a b = true)
    (hbc : inFormOrder b c = true) :
  inFormOrder a c = true
  := by
  rw [inFormOrder_iff, ← Category.rank_inj] at *
  omega

theorem inFormOrder_total (a b : Question) :
  (inFormOrder a b || inFormOrder b a) = true
  := by
  rw [Bool.or_eq_true, inFormOrder_iff, inFormOrder_iff, ← Category.rank_inj, ← Category.rank_inj]
  omega

/-! ### Registered questions at their places -/

/-- The questions of a rescue at their places, in the order of registration. -/
def asked (questions : Registry) (rescue : RescueId) : List (Question × Nat) :=
  questions.zipIdx.filter fun e => e.1.appliesTo rescue

/-- The same in the order of the form. -/
def entries (questions : Registry) (rescue : RescueId) : List (Question × Nat) :=
  (questions.asked rescue).mergeSort fun e f => inFormOrder e.1 f.1

theorem mem_asked_iff {q : Question} {place : Nat} :
  (q, place) ∈ questions.asked rescue ↔ questions[place]? = some q ∧ q.IsAskedBy rescue
  := by
  rw [asked, List.mem_filter, List.mem_zipIdx_iff_getElem?, Question.appliesTo_iff]

theorem asked_pairwise (questions : Registry) (rescue : RescueId) :
  (questions.asked rescue).Pairwise fun e f => e.2 < f.2
  := by
  apply List.Pairwise.filter
  rw [← List.pairwise_map (f := Prod.snd), List.zipIdx_map_snd]
  exact List.pairwise_lt_range' 1

theorem map_fst_asked (questions : Registry) (rescue : RescueId) :
  (questions.asked rescue).map Prod.fst = questions.filter (·.appliesTo rescue)
  := by
  conv_rhs => rw [← List.zipIdx_map_fst 0 questions, List.filter_map]
  rfl

theorem entries_perm (questions : Registry) (rescue : RescueId) :
  (questions.entries rescue).Perm (questions.asked rescue)
  := List.mergeSort_perm ..

theorem map_fst_entries (questions : Registry) (rescue : RescueId) :
  (questions.entries rescue).map Prod.fst = questions.formOf rescue
  := by
  rw [entries, List.map_mergeSort (s := inFormOrder) fun _ _ _ _ => rfl, map_fst_asked, formOf]

/-- The entries are in the order of the form. -/
theorem entries_pairwise (questions : Registry) (rescue : RescueId) :
  (questions.entries rescue).Pairwise Precedes
  := by
  have hsorted := pairwise_mergeSort_stable (fun e f : Question × Nat => inFormOrder e.1 f.1)
    (fun e f g => inFormOrder_trans e.1 f.1 g.1) (fun e f => inFormOrder_total e.1 f.1)
    (asked_pairwise questions rescue)
  apply hsorted.imp
  rintro e f ⟨hle, hplaces⟩
  obtain hcategory | ⟨hcategory, horder⟩ := inFormOrder_iff.mp hle
  · exact .category hcategory
  obtain horder | horder := Nat.lt_or_eq_of_le horder
  · exact .displayOrder hcategory horder
  · -- Two entries that may stand in either order are told apart by their places.
    have hge : inFormOrder f.1 e.1 = true := by
      apply inFormOrder_iff.mpr
      exact .inr ⟨hcategory.symm, Nat.le_of_eq horder.symm⟩
    exact .registered hcategory horder (hplaces hge)

/-- A form is made of the questions of its rescue in the order of the form. -/
theorem isForm_entries (questions : Registry) (rescue : RescueId) :
  IsForm questions rescue (questions.entries rescue) where
  nodup := by
    apply (entries_perm questions rescue).nodup_iff.mpr
    apply (asked_pairwise questions rescue).imp
    rintro e _ hlt rfl
    exact Nat.lt_irrefl _ hlt
  mem_iff q place := by
    rw [(entries_perm questions rescue).mem_iff, mem_asked_iff]
  ordered := entries_pairwise questions rescue

/-! ### Questions of others -/

/-- Questions that a rescue does not ask make no difference to its form. -/
theorem formOf_alike (h : AlikeFor rescue questions others) :
  questions.formOf rescue = others.formOf rescue
  := by
  suffices hfilter : questions.filter (·.appliesTo rescue) = others.filter (·.appliesTo rescue) by
    rw [formOf, formOf, hfilter]
  induction h with
  | nil => rfl
  | both q _ ih => rw [List.filter_cons, List.filter_cons, ih]
  | left hq _ ih => rw [List.filter_cons_of_neg (by rwa [Question.appliesTo_iff]), ih]
  | right hq _ ih => rw [List.filter_cons_of_neg (by rwa [Question.appliesTo_iff]), ih]

end Registry

end Rehoming
