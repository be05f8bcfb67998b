import Rehoming.Json.Decode
import Rehoming.Proofs.Collection.Ordered
/-!
# Values that are read back

What is written of a value is read as that value again: this for the kinds of values that
documents hold, and for what decoders make of decoders.
-/

namespace Rehoming.Json

/-! ### Flaws of containers -/

theorem itemsHaveFlaw_eq_any (kind : Flaw → Bool) (items : List Json) :
  itemsHaveFlaw kind items = items.any (hasFlaw kind)
  := by
  induction items with
  | nil => rfl
  | cons j rest ih => rw [itemsHaveFlaw, ih, List.any_cons]

theorem membersHaveFlaw_eq_any (kind : Flaw → Bool) (members : List (String × Json)) :
  membersHaveFlaw kind members = members.any (hasFlaw kind ·.2)
  := by
  induction members with
  | nil => rfl
  | cons m rest ih => rw [membersHaveFlaw, ih, List.any_cons]

theorem isSound_arr_iff {items : List Json} :
  (Json.arr items).isSound = true ↔ ∀ j ∈ items, j.isSound = true
  := by
  simp [isSound, hasFlaw, itemsHaveFlaw_eq_any]

theorem isSound_obj_iff {members : List (String × Json)} :
  (Json.obj members).isSound = true ↔ ∀ m ∈ members, m.2.isSound = true
  := by
  simp [isSound, hasFlaw, membersHaveFlaw_eq_any]

namespace Decoder

variable {α : Type} {d : Decoder α} {f : α → Json} {a : α}

/-! ### Values of one kind -/

/-- What is written of a value is read as the value.  It is not null, which stands for a
value that is missing. -/
structure Inverts (d : Decoder α) (f : α → Json) (a : α) : Prop where
  reads : d (f a) = .ok a
  ne_null : f a ≠ .null

theorem inverts_text (s : String) :
  Inverts text .str s
  := ⟨rfl, nofun⟩

theorem inverts_bool (b : Bool) :
  Inverts bool .bool b
  := ⟨rfl, nofun⟩

theorem inverts_nat {limit n : Nat} (h : n < limit) :
  Inverts (nat limit) Json.nat n
  where
  reads := by simp [nat, Json.nat, h]
  ne_null := nofun

theorem inverts_label {all : List α} {name : α → String}
    (h : (all.find? fun b => name b = name a) = some a) :
  Inverts (label all name) (fun a => .str (name a)) a
  where
  reads := by simp [label, label.find, h]
  ne_null := nofun

/-! ### Lists and sets -/

theorem items_map {l : List α} (h : ∀ a ∈ l, d (f a) = .ok a) :
  items d (l.map f) = .ok l
  := by
  induction l with
  | nil => rfl
  | cons a rest ih =>
    rw [List.map_cons, items, h a List.mem_cons_self,
      ih fun b hb => h b (List.mem_cons_of_mem _ hb)]
    rfl

theorem inverts_list {l : List α} (h : ∀ a ∈ l, Inverts d f a) :
  Inverts (list d) (fun l => .arr (l.map f)) l
  where
  reads := items_map fun a ha => (h a ha).reads
  ne_null := nofun

theorem inverts_strings (l : List String) :
  Inverts (list text) strings l
  := inverts_list fun s _ => inverts_text s

theorem inverts_textSet (set : TextSet) :
  Inverts textSet (fun set => strings set.toList) set
  where
  reads := by
    rw [textSet, (inverts_strings set.toList).reads, Except.map, TextSet.ofList_toList]
  ne_null := nofun

/-- Texts are read from nothing but texts. -/
theorem items_text_eq_ok_iff {js : List Json} {l : List String} :
  items text js = .ok l ↔ js = l.map .str
  := by
  constructor
  · intro h
    induction js generalizing l with
    | nil => cases h; rfl
    | cons j rest ih =>
      cases j with
      | str s =>
        cases hrest : items text rest with
        | error e => simp [items, text, hrest, bind, Except.bind] at h
        | ok l' =>
          obtain rfl : s :: l' = l := by
            simpa [items, text, hrest, bind, Except.bind, pure, Except.pure] using h
          rw [ih hrest, List.map_cons]
      | _ => cases h
  · rintro rfl
    exact items_map fun s _ => rfl

/-! ### Decoders made of decoders -/

theorem Inverts.option (h : Inverts d f a) :
  Decoder.option d (f a) = .ok (some a)
  := by
  have hreads := h.reads
  have hnull := h.ne_null
  generalize f a = j at hreads hnull
  cases j <;> first | exact absurd rfl hnull | simp [Decoder.option, hreads, Except.map]

theorem option_orNull {o : Option α} (h : ∀ a ∈ o, Inverts d f a) :
  option d (orNull f o) = .ok o
  := by
  cases o with
  | none => rfl
  | some a => exact (h a rfl).option

theorem buffered_eq_ok_iff {j : Json} :
  buffered d j = .ok a ↔ j.isSound = true ∧ d j = .ok a
  := by
  unfold buffered
  cases j.isSound <;> cases d j <;> simp

theorem Inverts.buffered (h : Inverts d f a) (hsound : (f a).isSound = true) :
  Inverts (buffered d) f a
  where
  reads := buffered_eq_ok_iff.mpr ⟨hsound, h.reads⟩
  ne_null := h.ne_null

end Decoder

end Rehoming.Json
