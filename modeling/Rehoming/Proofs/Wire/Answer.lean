import Rehoming.Proofs.Json.Decode
import Rehoming.Wire.Answer
/-!
# Answers that are read back

The kinds of answers are told apart by what they are written as, down to the empty list and
the empty group.  So an answer is read back as it was written, however deep its groups are
nested, and what is read as an answer is a truth value, a number, a string, an array of strings
or an object of answers.
-/

namespace Rehoming

open Json (Decoder)

namespace Answer

variable {a : Answer} {j : Json}

/-! ### Answers that there are -/

/-- Numbers are finite and groups are dictionaries, at every depth. -/
inductive WellFormed : Answer → Prop
  | boolean (b : Bool) : WellFormed (boolean b)
  | number {x : Double} (hfinite : x.isFinite = true) : WellFormed (number x)
  | text (s : String) : WellFormed (text s)
  | choices (l : List String) : WellFormed (choices l)
  | group {members : List (String × Answer)} (hordered : Dictionary.Ordered members)
      (hmembers : ∀ m ∈ members, WellFormed m.2) : WellFormed (group members)

theorem membersToJson_eq_map (members : List (String × Answer)) :
  membersToJson members = members.map fun m => (m.1, m.2.toJson)
  := by
  induction members with
  | nil => rfl
  | cons m rest ih => rw [membersToJson, ih, List.map_cons]

/-! ### From answers to documents and back -/

theorem isSound_toJson (h : a.WellFormed) :
  a.toJson.isSound = true
  := by
  induction h with
  | boolean | number | text => rfl
  | choices l =>
    apply Json.isSound_arr_iff.mpr
    intro j hj
    obtain ⟨s, -, rfl⟩ := List.mem_map.mp hj
    rfl
  | @group members _ _ ih =>
    rw [toJson, membersToJson_eq_map]
    apply Json.isSound_obj_iff.mpr
    intro _ hwritten
    obtain ⟨m, hm, rfl⟩ := List.mem_map.mp hwritten
    exact ih m hm

/-- A dictionary is filled again with the answers of its entries. -/
theorem ofMembers_membersToJson {found rest : Answers}
    (hordered : Dictionary.Ordered (found ++ rest))
    (hrest : ∀ m ∈ rest, ofSound m.2.toJson = .ok m.2) :
  ofMembers found (membersToJson rest) = .ok (found ++ rest)
  := by
  induction rest generalizing found with
  | nil => rw [membersToJson, ofMembers, List.append_nil]
  | cons m rest ih =>
    obtain ⟨key, a⟩ := m
    have habove : ∀ e ∈ found, e.1 < key := by
      intro e he
      exact (List.pairwise_append.mp hordered).2.2 e he _ List.mem_cons_self
    have ha : ofSound a.toJson = .ok a := hrest _ List.mem_cons_self
    rw [List.append_cons] at hordered ⊢
    simp only [membersToJson, ofMembers, ha, Dictionary.insert_of_above habove]
    apply ih hordered
    · intro m hm
      exact hrest m (List.mem_cons_of_mem _ hm)

theorem ofSound_toJson (h : a.WellFormed) :
  ofSound a.toJson = .ok a
  := by
  induction h with
  | boolean | number | text => rfl
  | choices l =>
    have hl := (Decoder.inverts_strings l).reads
    simp only [Json.strings, Decoder.list] at hl
    simp [toJson, Json.strings, ofSound, hl, Except.map]
  | @group members hordered _ ih =>
    have hmembers : ofMembers [] (membersToJson members) = .ok members :=
      ofMembers_membersToJson hordered ih
    simp [toJson, ofSound, hmembers, Except.map]

/-- An answer is read back. -/
theorem ofJson_toJson (h : a.WellFormed) :
  ofJson a.toJson = .ok a
  := Decoder.buffered_eq_ok_iff.mpr ⟨isSound_toJson h, ofSound_toJson h⟩

/-! ### What is read as an answer -/

theorem ofMembers_ok_iff {found : Answers} {members : List (String × Json)} :
  (∃ answers, ofMembers found members = .ok answers)
    ↔ ∀ m ∈ members, ∃ a, ofSound m.2 = .ok a
  := by
  induction members generalizing found with
  | nil => simp [ofMembers]
  | cons m rest ih =>
    obtain ⟨key, j⟩ := m
    rw [List.forall_mem_cons, ofMembers]
    cases ofSound j with
    | error e => simp
    | ok a => simp only [ih, Except.ok.injEq, exists_eq', true_and]

theorem ofJson_obj_ok_iff {members : List (String × Json)} :
  (∃ a, ofJson (.obj members) = .ok a) ↔ ∀ m ∈ members, ∃ a, ofJson m.2 = .ok a
  := by
  have hgroup : (∃ a, ofSound (.obj members) = .ok a)
      ↔ ∃ answers, ofMembers [] members = .ok answers := by
    cases h : ofMembers [] members <;> simp [ofSound, h, Except.map]
  simp only [ofJson, Decoder.buffered_eq_ok_iff, exists_and_left, hgroup, ofMembers_ok_iff,
    Json.isSound_obj_iff]
  exact forall₂_and.symm

theorem ofJson_arr_ok_iff {items : List Json} :
  (∃ a, ofJson (.arr items) = .ok a) ↔ ∃ l : List String, items = l.map .str
  := by
  constructor
  · rintro ⟨a, h⟩
    obtain ⟨-, h⟩ := Decoder.buffered_eq_ok_iff.mp h
    cases hl : Decoder.items Decoder.text items with
    | error e => simp [ofSound, hl, Except.map] at h
    | ok l => exact ⟨l, Decoder.items_text_eq_ok_iff.mp hl⟩
  · rintro ⟨l, rfl⟩
    exact ⟨choices l, ofJson_toJson (.choices l)⟩

/-- What is read as an answer is a truth value, a number, a string, an array of strings, or an
object whose members are read as answers. -/
theorem ofJson_ok_iff :
  (∃ a, ofJson j = .ok a) ↔
    (∃ b, j = .bool b) ∨ (∃ n, j = .int n) ∨ (∃ x, j = .real x) ∨ (∃ s, j = .str s)
    ∨ (∃ l, j = Json.strings l)
    ∨ ∃ members, j = .obj members ∧ ∀ m ∈ members, ∃ a, ofJson m.2 = .ok a
  := by
  cases j with
  | null => simp [ofJson, Decoder.buffered_eq_ok_iff, ofSound, Json.strings]
  | flawed f => simp [ofJson, Decoder.buffered_eq_ok_iff, ofSound, Json.strings]
  | bool b => simp [ofJson, Decoder.buffered_eq_ok_iff, ofSound, Json.isSound, Json.hasFlaw]
  | int n => simp [ofJson, Decoder.buffered_eq_ok_iff, ofSound, Json.isSound, Json.hasFlaw]
  | real x => simp [ofJson, Decoder.buffered_eq_ok_iff, ofSound, Json.isSound, Json.hasFlaw]
  | str s => simp [ofJson, Decoder.buffered_eq_ok_iff, ofSound, Json.isSound, Json.hasFlaw]
  | arr items => simp [ofJson_arr_ok_iff, Json.strings]
  | obj members => simp [ofJson_obj_ok_iff, Json.strings]

end Answer

namespace Answers

/-- All answers are such that there are, and so is their order. -/
structure WellFormed (answers : Answers) : Prop where
  ordered : Dictionary.Ordered answers
  members : ∀ m ∈ answers, m.2.WellFormed

theorem collect_eq_ok {found result : Answers} {members : List (String × Json)}
    (hsound : ∀ m ∈ members, m.2.isSound = true)
    (h : Answer.ofMembers found members = .ok result) :
  collect found members = .ok result
  := by
  induction members generalizing found with
  | nil => exact h
  | cons m rest ih =>
    obtain ⟨key, j⟩ := m
    rw [Answer.ofMembers] at h
    split at h
    next a ha =>
      have hj : Answer.ofJson j = .ok a :=
        Decoder.buffered_eq_ok_iff.mpr ⟨hsound _ List.mem_cons_self, ha⟩
      rw [collect, hj]
      exact ih (fun m hm => hsound m (List.mem_cons_of_mem _ hm)) h
    next => cases h

/-- Answers are read back. -/
theorem inverts_toJson {answers : Answers} (h : answers.WellFormed) :
  Decoder.Inverts ofJson toJson answers
  where
  reads := by
    have hgroup : (Answer.group answers).WellFormed := .group h.ordered h.members
    apply collect_eq_ok
    · exact Json.isSound_obj_iff.mp (Answer.isSound_toJson hgroup)
    · apply @Answer.ofMembers_membersToJson [] _ h.ordered
      intro m hm
      exact Answer.ofSound_toJson (h.members m hm)
  ne_null := nofun

end Answers

end Rehoming
