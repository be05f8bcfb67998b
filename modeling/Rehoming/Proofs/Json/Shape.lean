import Rehoming.Proofs.Json.Decode
import Mathlib.Data.List.Nodup
/-!
# Records and their members

What it takes that the members of an object are read as a record.  Each part of a record
reads members of its own, and the members of the whole are those of its parts one after the
other, so that a record is put together from its members as its shape is.

The keys of a shape are all different.  This is asked for once, of the whole shape, and
everything that is said of a part says it of parts whose keys are different.
-/

namespace Rehoming.Json

/-! ### Known members -/

namespace Shape

variable {α β : Type}

/-- Members with known and different keys have no fault if each of them passes the check of
its key. -/
theorem memberFault_eq_none {slots : List Slot} {seen : List Nat} {ms : List (String × Json)}
    (hknown : ∀ m ∈ ms, ∃ slot ∈ slots, m.1 ∈ slot.keys)
    (hcheck : ∀ slot ∈ slots, ∀ m ∈ ms, m.1 ∈ slot.keys → slot.check m.2 = none)
    (hseen : ∀ i ∈ seen, ∀ slot, slots[i]? = some slot → ∀ m ∈ ms, m.1 ∉ slot.keys)
    (hdifferent : ms.Pairwise fun m m' => ∀ slot ∈ slots, m.1 ∈ slot.keys → m'.1 ∉ slot.keys) :
  memberFault slots seen ms = none
  := by
  induction ms generalizing seen with
  | nil => rfl
  | cons m rest ih =>
    obtain ⟨key, j⟩ := m
    obtain ⟨hothers, hrest⟩ := List.pairwise_cons.mp hdifferent
    obtain ⟨i, hi⟩ : ∃ i, (slots.findIdx? fun slot => slot.keys.contains key) = some i := by
      obtain ⟨slot, hslot, hkey⟩ := hknown (key, j) List.mem_cons_self
      apply Option.isSome_iff_exists.mp
      rw [List.findIdx?_isSome]
      exact List.any_eq_true.mpr ⟨slot, hslot, List.contains_iff_mem.mpr hkey⟩
    obtain ⟨hlt, hcontains, -⟩ := List.findIdx?_eq_some_iff_getElem.mp hi
    have hslot : slots[i]? = some slots[i] := List.getElem?_eq_getElem hlt
    have hmem : slots[i] ∈ slots := List.getElem_mem hlt
    have hkey : key ∈ slots[i].keys := List.contains_iff_mem.mp hcontains
    have hfresh : seen.contains i = false := by
      rw [← Bool.not_eq_true, List.contains_iff_mem]
      intro hin
      exact hseen i hin _ hslot (key, j) List.mem_cons_self hkey
    simp only [memberFault, hi, hfresh, hslot, Option.bind_some,
      hcheck _ hmem (key, j) List.mem_cons_self hkey, Bool.false_eq_true, if_false]
    apply ih _ _ _ hrest
    · intro m hm
      exact hknown m (List.mem_cons_of_mem _ hm)
    · intro slot hs m hm
      exact hcheck slot hs m (List.mem_cons_of_mem _ hm)
    · intro k hk slot hs m hm
      rcases List.mem_cons.mp hk with rfl | hk
      · obtain rfl : slots[k] = slot := Option.some.inj (hslot.symm.trans hs)
        exact hothers m hm _ hmem hkey
      · exact hseen k hk slot hs m (List.mem_cons_of_mem _ hm)

theorem valueOf_eq_none {ms : List (String × Json)} {slot : Slot}
    (h : ∀ m ∈ ms, m.1 ∉ slot.keys) :
  valueOf ms slot = none
  := by
  rw [valueOf, Option.map_eq_none_iff, List.find?_eq_none]
  intro m hm
  simpa using h m hm

theorem valueOf_append (ms ms' : List (String × Json)) (slot : Slot) :
  valueOf (ms ++ ms') slot = (valueOf ms slot).or (valueOf ms' slot)
  := by
  rw [valueOf, List.find?_append, Option.map_or]
  rfl

/-! ### Members that are read as a record -/

/-- The keys of a record. -/
def keys (s : Shape α) : List String :=
  s.slots.flatMap Slot.keys

/-- Some members are read as a record: their keys are among those of the record and in the
order of these, each passes its check, and together they make up the record, whatever values
follow. -/
structure Reads (s : Shape α) (ms : List (String × Json)) (a : α) : Prop where
  keys : (ms.map Prod.fst).Sublist s.keys
  single : ∀ slot ∈ s.slots, ∃ key, slot.keys = [key]
  checked : s.keys.Nodup → ∀ slot ∈ s.slots, ∀ m ∈ ms, m.1 ∈ slot.keys → slot.check m.2 = none
  built : s.keys.Nodup → ∀ rest, s.build (s.slots.map (valueOf ms) ++ rest) = .ok (a, rest)

theorem build_seq (f : Shape (α → β)) (s : Shape α) (js : List (Option Json)) :
  (f <*> s).build js =
    (f.build js).bind fun g => (s.build g.2).bind fun a => .ok (g.1 a.1, a.2)
  := rfl

theorem keys_seq (f : Shape (α → β)) (s : Shape α) :
  (f <*> s).keys = f.keys ++ s.keys
  := List.flatMap_append

namespace Reads

variable {ms ms' : List (String × Json)} {a : α}

theorem key_mem {s : Shape α} (h : Reads s ms a) {m : String × Json} (hm : m ∈ ms) :
  m.1 ∈ s.keys
  := h.keys.subset (List.mem_map_of_mem hm)

/-- An object whose members are read as a record is read as it. -/
theorem decode {s : Shape α} (h : Reads s ms a) (hkeys : s.keys.Nodup) :
  s.decode (.obj ms) = .ok a
  := by
  have hfault : memberFault s.slots [] ms = none := by
    apply memberFault_eq_none
    · intro m hm
      obtain ⟨slot, hslot, hkey⟩ := List.mem_flatMap.mp (h.key_mem hm)
      exact ⟨slot, hslot, hkey⟩
    · exact h.checked hkeys
    · intro i hi
      exact absurd hi List.not_mem_nil
    · have hnodup : (ms.map Prod.fst).Nodup := hkeys.sublist h.keys
      apply (List.pairwise_map.mp hnodup).imp
      intro m m' hne slot hslot hm hm'
      obtain ⟨key, hkey⟩ := h.single slot hslot
      rw [hkey, List.mem_singleton] at hm hm'
      exact hne (hm.trans hm'.symm)
  have hbuilt := h.built hkeys []
  rw [List.append_nil] at hbuilt
  simp [Shape.decode, hfault, hbuilt, Except.map]

theorem inverts {s : Shape α} {f : α → Json} (h : Reads s ms a) (hkeys : s.keys.Nodup)
    (hf : f a = .obj ms) :
  Decoder.Inverts s.decode f a
  where
  reads := by rw [hf, h.decode hkeys]
  ne_null := by rw [hf]; nofun

/-! ### From the parts to the whole -/

protected theorem map {s : Shape α} (h : Reads s ms a) (f : α → β) :
  Reads (f <$> s) ms (f a)
  where
  keys := h.keys
  single := h.single
  checked := h.checked
  built hkeys rest := by
    change (s.build (s.slots.map (valueOf ms) ++ rest)).map _ = _
    rw [h.built hkeys]
    rfl

/-- The members of two parts of a record do not get into each other's way. -/
protected theorem seq {f : Shape (α → β)} {s : Shape α} {g : α → β} (hf : Reads f ms g)
    (hs : Reads s ms' a) :
  Reads (f <*> s) (ms ++ ms') (g a)
  where
  keys := by
    rw [List.map_append, keys_seq]
    exact hf.keys.append hs.keys
  single slot hslot := by
    rcases List.mem_append.mp hslot with hslot | hslot
    · exact hf.single slot hslot
    · exact hs.single slot hslot
  checked hkeys slot hslot m hm hkey := by
    rw [keys_seq, List.nodup_append'] at hkeys
    obtain ⟨hnf, hns, hdisjoint⟩ := hkeys
    rcases List.mem_append.mp hslot with hslot | hslot
      <;> have hin := List.mem_flatMap_of_mem hslot hkey
      <;> rcases List.mem_append.mp hm with hm | hm
    · exact hf.checked hnf slot hslot m hm hkey
    · exact absurd (hs.key_mem hm) (hdisjoint hin)
    · exact absurd hin (hdisjoint (hf.key_mem hm))
    · exact hs.checked hns slot hslot m hm hkey
  built hkeys rest := by
    rw [keys_seq, List.nodup_append'] at hkeys
    obtain ⟨hnf, hns, hdisjoint⟩ := hkeys
    have hleft : f.slots.map (valueOf (ms ++ ms')) = f.slots.map (valueOf ms) := by
      apply List.map_congr_left
      intro slot hslot
      rw [valueOf_append, @valueOf_eq_none ms' slot, Option.or_none]
      intro m hm hkey
      exact hdisjoint (List.mem_flatMap_of_mem hslot hkey) (hs.key_mem hm)
    have hright : s.slots.map (valueOf (ms ++ ms')) = s.slots.map (valueOf ms') := by
      apply List.map_congr_left
      intro slot hslot
      rw [valueOf_append, @valueOf_eq_none ms slot, Option.none_or]
      intro m hm hkey
      exact hdisjoint (hf.key_mem hm) (List.mem_flatMap_of_mem hslot hkey)
    have hslots : (f <*> s).slots = f.slots ++ s.slots := rfl
    rw [build_seq, hslots, List.map_append, hleft, hright, List.append_assoc, hf.built hnf,
      Except.bind, hs.built hns, Except.bind]

/-! ### Single members -/

section Members

variable {key : String} {d : Decoder α} {f : α → Json} {mayLack : Bool}
  {absent : Except DecodeError α}

theorem present {j : Json} (h : d j = .ok a) :
  Reads (member [key] d mayLack absent) [(key, j)] a
  where
  keys := .refl _
  single := by
    intro slot hslot
    obtain rfl := List.mem_singleton.mp hslot
    exact ⟨key, rfl⟩
  checked := by
    intro _ slot hslot m hm _
    obtain rfl := List.mem_singleton.mp hslot
    obtain rfl := List.mem_singleton.mp hm
    simp [faultOf, h]
  built := by
    intro _ rest
    simp [member, valueOf, h, Except.map]

theorem missing (h : absent = .ok a) :
  Reads (member [key] d mayLack absent) [] a
  where
  keys := List.nil_sublist _
  single := by
    intro slot hslot
    obtain rfl := List.mem_singleton.mp hslot
    exact ⟨key, rfl⟩
  checked := by
    intro _ _ _ m hm
    exact absurd hm List.not_mem_nil
  built := by
    intro _ rest
    simp [member, valueOf, h, Except.map]

protected theorem required (h : d.Inverts f a) :
  Reads (.required key d) [(key, f a)] a
  := present h.reads

protected theorem default {value : α} (h : d.Inverts f a) :
  Reads (.default key d value) [(key, f a)] a
  := present h.reads

/-- A member may be left out where it has the value that is taken when it is missing. -/
theorem default_unless {value : α} {isDefault : Bool} (hdefault : isDefault = true → a = value)
    (h : d.Inverts f a) :
  Reads (.default key d value) (if isDefault then [] else [(key, f a)]) a
  := by
  cases isDefault with
  | false => exact .default h
  | true => exact missing (congrArg _ (hdefault rfl).symm)

protected theorem nullable {o : Option α} (h : ∀ a ∈ o, d.Inverts f a) :
  Reads (.nullable key d) [(key, orNull f o)] o
  := present (Decoder.option_orNull h)

/-- A member that is left out is read as one that is missing. -/
protected theorem optional {o : Option α} (h : ∀ a ∈ o, d.Inverts f a) :
  Reads (.optional key d) (Json.optional key f o) o
  := by
  cases o with
  | none => exact missing rfl
  | some a => exact present (h a rfl).option

end Members

end Reads

end Shape

end Rehoming.Json
