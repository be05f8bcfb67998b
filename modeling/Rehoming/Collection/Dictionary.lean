/-!
# Dictionaries

Finite maps from texts, kept as lists of entries in the order of their keys, every key
once.  Two such lists are equal exactly when they hold the same entries, so a dictionary
does not remember the order in which it was filled.
-/

namespace Rehoming

theorem text_lt_of_not_lt_of_ne {a b : String} (h : ¬ a < b) (hne : a ≠ b) : b < a := by
  by_cases hba : b < a
  · exact hba
  · exact absurd (String.le_antisymm (String.not_lt.mp hba) (String.not_lt.mp h)) hne

namespace Dictionary

/-- The entries with one more, which takes the place of the one of the same key. -/
def insert {α : Type} (k : String) (v : α) : List (String × α) → List (String × α)
  | [] => [(k, v)]
  | e :: r =>
    if k < e.1 then (k, v) :: e :: r
    else if k = e.1 then (k, v) :: r
    else e :: insert k v r

/-- The value of a key. -/
def get? {α : Type} (k : String) (entries : List (String × α)) : Option α :=
  (entries.find? fun e => e.1 = k).map Prod.snd

/-- The dictionary of some entries, of which the last counts where keys are the same. -/
def ofList {α : Type} (entries : List (String × α)) : List (String × α) :=
  entries.foldl (fun d e => insert e.1 e.2 d) []

/-- Every key is below those after it. -/
def Ordered {α : Type} (entries : List (String × α)) : Prop :=
  entries.Pairwise fun a b => a.1 < b.1

theorem mem_insert {α : Type} {k : String} {v : α} {d : List (String × α)} {e : String × α}
    (h : e ∈ insert k v d) :
  e = (k, v) ∨ e ∈ d
  := by
  induction d with
  | nil => simpa [insert] using h
  | cons x r ih =>
    simp only [insert] at h
    split at h
    · simpa using h
    · split at h
      · simp only [List.mem_cons] at h ⊢
        exact h.imp id .inr
      · simp only [List.mem_cons] at h ⊢
        rcases h with rfl | h
        · exact .inr (.inl rfl)
        · exact (ih h).imp id .inr

theorem Ordered.insert {α : Type} {k : String} {v : α} {d : List (String × α)} (h : Ordered d) :
  Ordered (Dictionary.insert k v d)
  := by
  induction d with
  | nil => simp [Dictionary.insert, Ordered]
  | cons x r ih =>
    have hx := List.pairwise_cons.mp h
    simp only [Dictionary.insert]
    split
    next hk =>
      refine List.pairwise_cons.mpr ⟨?_, h⟩
      intro e he
      rcases List.mem_cons.mp he with rfl | he
      · exact hk
      · exact String.lt_trans hk (hx.1 e he)
    next hk =>
      split
      next heq => exact List.pairwise_cons.mpr ⟨fun e he => heq ▸ hx.1 e he, hx.2⟩
      next hne =>
        refine List.pairwise_cons.mpr ⟨?_, ih hx.2⟩
        intro e he
        rcases mem_insert he with rfl | he
        · exact text_lt_of_not_lt_of_ne hk hne
        · exact hx.1 e he

theorem Ordered.foldl_insert {α : Type} {d : List (String × α)} (h : Ordered d)
    (entries : List (String × α)) :
  Ordered (entries.foldl (fun d e => Dictionary.insert e.1 e.2 d) d)
  := by
  induction entries generalizing d with
  | nil => exact h
  | cons e r ih => exact ih h.insert

theorem ordered_ofList {α : Type} (entries : List (String × α)) : Ordered (ofList entries) :=
  Ordered.foldl_insert List.Pairwise.nil entries

end Dictionary

end Rehoming
