import Rehoming.Collection.Dictionary
/-!
# Sets of texts

Finite sets of texts, kept as lists in increasing order.  Two sets are equal exactly when
their lists are.
-/

namespace Rehoming

/-- A finite set of texts. -/
structure TextSet where
  toList : List String
  increasing : toList.Pairwise (· < ·)
  deriving DecidableEq

namespace TextSet

/-- The set without members. -/
def empty : TextSet := ⟨[], List.Pairwise.nil⟩

instance : Inhabited TextSet := ⟨empty⟩

/-- An increasing list with one more member. -/
def insertInto (s : String) : List String → List String
  | [] => [s]
  | t :: r => if s < t then s :: t :: r else if s = t then t :: r else t :: insertInto s r

theorem mem_insertInto {s t : String} {l : List String} :
  t ∈ insertInto s l ↔ t = s ∨ t ∈ l
  := by
  induction l with
  | nil => simp [insertInto]
  | cons u r ih =>
    simp only [insertInto]
    split
    · simp
    · split
      next h => subst h; simp
      next => simp only [List.mem_cons, ih]; exact or_left_comm

theorem pairwise_insertInto {s : String} {l : List String} (h : l.Pairwise (· < ·)) :
  (insertInto s l).Pairwise (· < ·)
  := by
  induction l with
  | nil => simp [insertInto]
  | cons u r ih =>
    have hu := List.pairwise_cons.mp h
    simp only [insertInto]
    split
    next hs =>
      refine List.pairwise_cons.mpr ⟨?_, h⟩
      intro t ht
      rcases List.mem_cons.mp ht with rfl | ht
      · exact hs
      · exact String.lt_trans hs (hu.1 t ht)
    next hs =>
      split
      next => exact h
      next hne =>
        refine List.pairwise_cons.mpr ⟨?_, ih hu.2⟩
        intro t ht
        rcases mem_insertInto.mp ht with rfl | ht
        · exact text_lt_of_not_lt_of_ne hs hne
        · exact hu.1 t ht

/-- The set with one more member. -/
def insert (s : String) (set : TextSet) : TextSet :=
  ⟨insertInto s set.toList, pairwise_insertInto set.increasing⟩

/-- The set of the texts of a list. -/
def ofList (l : List String) : TextSet :=
  l.foldl (fun set s => set.insert s) empty

/-- Whether a text is a member. -/
def contains (set : TextSet) (s : String) : Bool :=
  set.toList.contains s

theorem mem_insert {s t : String} {set : TextSet} :
  t ∈ (set.insert s).toList ↔ t = s ∨ t ∈ set.toList
  := mem_insertInto

theorem mem_foldl_insert {t : String} (l : List String) (set : TextSet) :
  t ∈ (l.foldl (fun set s => set.insert s) set).toList ↔ t ∈ l ∨ t ∈ set.toList
  := by
  induction l generalizing set with
  | nil => simp
  | cons s r ih =>
    simp only [List.foldl_cons, ih, mem_insert, List.mem_cons]
    constructor
    · rintro (h | h | h)
      · exact .inl (.inr h)
      · exact .inl (.inl h)
      · exact .inr h
    · rintro ((h | h) | h)
      · exact .inr (.inl h)
      · exact .inl h
      · exact .inr (.inr h)

theorem mem_ofList {t : String} {l : List String} : t ∈ (ofList l).toList ↔ t ∈ l := by
  simp [ofList, mem_foldl_insert, empty]

end TextSet

end Rehoming
