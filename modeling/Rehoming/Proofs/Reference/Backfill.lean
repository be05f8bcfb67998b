import Rehoming.Proofs.Reference.Slots
/-!
# How lists of slots are filled up

A list that grows gets a slot for each person named in the answers who is not listed yet, in the
order of the answers and until it is long enough, and then placeholders.  Somebody is listed from
then on, so that a list which grows in steps is the one that grows at once, and what is reported
on its slots in the meantime makes no difference.
-/

namespace Rehoming

namespace AnswerContact

variable {c : AnswerContact} {index : Nat} {slots more : List Reference}

/-- Slots for some people in a row. -/
def slotsFrom (start : Nat) : List AnswerContact → List Reference
  | [] => []
  | c :: rest => c.slot start :: slotsFrom (start + 1) rest

/-- That somebody has a slot already. -/
def Listed (c : AnswerContact) (slots : List Reference) : Prop :=
  ∃ slot ∈ slots, c.matchesSlot slot = true

theorem any_matchesSlot_iff :
  slots.any c.matchesSlot = true ↔ c.Listed slots
  := List.any_eq_true

/-- A slot that has been made for somebody is for this person. -/
theorem matchesSlot_slot (c : AnswerContact) (index : Nat) :
  c.matchesSlot (c.slot index) = true
  := by
  simp [matchesSlot, slot, Text.equalIgnoringAsciiCase]

theorem listed_append_slot (c : AnswerContact) (slots : List Reference) (index : Nat) :
  c.Listed (slots ++ [c.slot index])
  := by
  use c.slot index
  exact ⟨List.mem_append_right slots List.mem_cons_self, c.matchesSlot_slot index⟩

theorem Listed.mono (h : c.Listed slots) (hmore : slots <+: more) :
  c.Listed more
  := by
  obtain ⟨slot, hslot, hmatches⟩ := h
  use slot, hmore.mem hslot

@[simp]
theorem length_slotsFrom (start : Nat) (contacts : List AnswerContact) :
  (slotsFrom start contacts).length = contacts.length
  := by
  induction contacts generalizing start with
  | nil => rfl
  | cons c rest ih => rw [slotsFrom, List.length_cons, ih, List.length_cons]

theorem getElem?_slotsFrom (start : Nat) (contacts : List AnswerContact) (i : Nat) :
  (slotsFrom start contacts)[i]? = contacts[i]?.map fun c => c.slot (start + i)
  := by
  induction contacts generalizing start i with
  | nil => simp [slotsFrom]
  | cons c rest ih =>
    cases i with
    | zero => simp [slotsFrom]
    | succ i => simp [slotsFrom, ih, Nat.add_right_comm, Nat.add_assoc]

theorem take_slotsFrom (start : Nat) (contacts : List AnswerContact) (i : Nat) :
  (slotsFrom start contacts).take i = slotsFrom start (contacts.take i)
  := by
  induction contacts generalizing start i with
  | nil => simp [slotsFrom]
  | cons c rest ih =>
    cases i with
    | zero => simp [slotsFrom]
    | succ i => simp [slotsFrom, ih]

theorem slotsFrom_append (start : Nat) (contacts later : List AnswerContact) :
  slotsFrom start (contacts ++ later)
    = slotsFrom start contacts ++ slotsFrom (start + contacts.length) later
  := by
  induction contacts generalizing start with
  | nil => rfl
  | cons c rest ih =>
    rw [List.cons_append, slotsFrom, ih, slotsFrom, List.cons_append, List.length_cons,
      Nat.add_right_comm, Nat.add_assoc]

/-- The people who are not listed, each as often as nobody before is taken for the same. -/
def newcomers (slots : List Reference) : List AnswerContact → List AnswerContact
  | [] => []
  | c :: rest =>
    if slots.any c.matchesSlot then newcomers slots rest
    else c :: newcomers (slots ++ [c.slot slots.length]) rest

theorem newcomers_sublist (slots : List Reference) (contacts : List AnswerContact) :
  (newcomers slots contacts).Sublist contacts
  := by
  induction contacts generalizing slots with
  | nil => apply List.Sublist.refl
  | cons c rest ih =>
    rw [newcomers]
    split
    · apply List.Sublist.cons c (ih slots)
    · apply List.Sublist.cons_cons c (ih _)

/-- Nobody among the newcomers is taken for somebody with a slot before. -/
theorem newcomers_fresh {i : Nat} {contacts : List AnswerContact}
    (h : (newcomers slots contacts)[i]? = some c) :
  ∀ slot ∈ slots ++ slotsFrom slots.length ((newcomers slots contacts).take i),
    c.matchesSlot slot = false
  := by
  induction contacts generalizing slots i with
  | nil => cases h
  | cons first rest ih =>
    rw [newcomers] at h ⊢
    split at h
    next hlisted =>
      rw [if_pos hlisted]
      apply ih h
    next hnew =>
      rw [if_neg hnew]
      cases i with
      | zero =>
        obtain rfl : first = c := by simpa using h
        simpa [slotsFrom] using hnew
      | succ i =>
        have hrest : (newcomers (slots ++ [first.slot slots.length]) rest)[i]? = some c := by
          simpa using h
        simpa [slotsFrom] using ih hrest

/-- With the newcomers everybody is listed. -/
theorem listed_newcomers {contacts : List AnswerContact} (h : c ∈ contacts) :
  c.Listed (slots ++ slotsFrom slots.length (newcomers slots contacts))
  := by
  induction contacts generalizing slots with
  | nil => cases h
  | cons first rest ih =>
    rw [newcomers]
    split
    next hlisted =>
      obtain rfl | h := List.mem_cons.mp h
      · apply (any_matchesSlot_iff.mp hlisted).mono
        apply List.prefix_append
      · apply ih h
    next hnew =>
      obtain rfl | h := List.mem_cons.mp h
      · apply (c.listed_append_slot slots slots.length).mono
        simp [slotsFrom]
      · have hrest : c.Listed (slots ++ [first.slot slots.length]
            ++ slotsFrom (slots ++ [first.slot slots.length]).length
              (newcomers (slots ++ [first.slot slots.length]) rest)) := ih h
        simpa [slotsFrom] using hrest

/-- The first newcomers are those among the first of the people. -/
theorem exists_newcomers_eq_take (slots : List Reference) (contacts : List AnswerContact)
    (count : Nat) :
  ∃ passed left, contacts = passed ++ left
    ∧ newcomers slots passed = (newcomers slots contacts).take count
  := by
  induction contacts generalizing slots count with
  | nil => exact ⟨[], [], rfl, by simp [newcomers]⟩
  | cons c rest ih =>
    by_cases hlisted : slots.any c.matchesSlot
    · obtain ⟨passed, left, rfl, hpassed⟩ := ih slots count
      use c :: passed, left, rfl
      rw [newcomers, newcomers, if_pos hlisted, if_pos hlisted, hpassed]
    · cases count with
      | zero => exact ⟨[], c :: rest, rfl, by simp [newcomers]⟩
      | succ count =>
        obtain ⟨passed, left, rfl, hpassed⟩ := ih (slots ++ [c.slot slots.length]) count
        use c :: passed, left, rfl
        rw [newcomers, newcomers, if_neg hlisted, if_neg hlisted, hpassed, List.take_succ_cons]

theorem newcomers_of_listed {contacts : List AnswerContact} (h : ∀ c ∈ contacts, c.Listed slots) :
  newcomers slots contacts = []
  := by
  induction contacts with
  | nil => rfl
  | cons c rest ih =>
    obtain ⟨hfirst, hrest⟩ := List.forall_mem_cons.mp h
    rw [newcomers, if_pos (any_matchesSlot_iff.mpr hfirst), ih hrest]

/-- Once the first newcomers have their slots, the others are left. -/
theorem newcomers_append_slotsFrom (slots : List Reference) (contacts : List AnswerContact)
    (count : Nat) :
  newcomers (slots ++ slotsFrom slots.length ((newcomers slots contacts).take count)) contacts
    = (newcomers slots contacts).drop count
  := by
  induction contacts generalizing slots count with
  | nil => simp [newcomers]
  | cons c rest ih =>
    by_cases hlisted : slots.any c.matchesSlot
    · have hlater : ∀ more, ((slots ++ more).any c.matchesSlot) = true := by
        intro more
        rw [List.any_append, hlisted, Bool.true_or]
      rw [newcomers, newcomers, if_pos hlisted, if_pos (hlater _), ih]
    · cases count with
      | zero => simp [slotsFrom]
      | succ count =>
        have hrest := ih (slots ++ [c.slot slots.length]) count
        have hfirst : newcomers slots (c :: rest)
            = c :: newcomers (slots ++ [c.slot slots.length]) rest := by
          rw [newcomers, if_neg hlisted]
        rw [List.length_append, List.length_singleton, List.append_assoc, List.singleton_append] at hrest
        rw [hfirst, List.take_succ_cons, slotsFrom, newcomers, if_pos, hrest, List.drop_succ_cons]
        simp [c.matchesSlot_slot]

/-- What is asked of a slot when somebody is to be listed. -/
def addressOf (slot : Reference) : String × String :=
  (slot.name, slot.phone)

/-- Only the names and the phone numbers of the slots decide on who is new. -/
theorem newcomers_congr {contacts : List AnswerContact}
    (h : slots.map addressOf = more.map addressOf) :
  newcomers slots contacts = newcomers more contacts
  := by
  induction contacts generalizing slots more with
  | nil => rfl
  | cons c rest ih =>
    have hany : ∀ l : List Reference, l.any c.matchesSlot = (l.map addressOf).any fun address =>
        Text.equalIgnoringAsciiCase address.1 c.name && address.2 == c.phone := by
      intro l
      rw [List.any_map]
      rfl
    have hnext : (slots ++ [c.slot slots.length]).map addressOf
        = (more ++ [c.slot more.length]).map addressOf := by
      rw [List.map_append, List.map_append, h]
      rfl
    rw [newcomers, newcomers, hany slots, hany more, h, ih h, ih hnext]

end AnswerContact

namespace Reference

open AnswerContact

variable {slots : List Reference} {answers : Answers}

/-- People are added as long as there is room, the newcomers one after the other. -/
theorem addContacts_eq (size : Nat) (slots : List Reference) (contacts : List AnswerContact) :
  addContacts size slots contacts
    = slots ++ slotsFrom slots.length ((newcomers slots contacts).take (size - slots.length))
  := by
  induction contacts generalizing slots with
  | nil => simp [addContacts, newcomers, slotsFrom]
  | cons c rest ih =>
    rw [addContacts]
    split
    next hfull => simp [Nat.sub_eq_zero_of_le hfull, slotsFrom]
    next hroom =>
      rw [newcomers]
      split
      · apply ih
      · obtain ⟨more, hmore⟩ := Nat.exists_eq_add_of_lt (Nat.lt_of_not_le hroom)
        have hleft : size - slots.length = more + 1 := by omega
        have hleft' : size - (slots.length + 1) = more := by omega
        rw [ih, List.length_append, List.length_singleton, hleft, hleft', List.take_succ_cons,
          slotsFrom, List.append_assoc, List.singleton_append]

/-- A list grows by slots for the newcomers, and then by placeholders if there is still room. -/
theorem ensureSlot_eq (slots : List Reference) (index : Nat) (answers : Answers) :
  let arrivals := newcomers slots (AnswerContact.all answers)
  ensureSlot slots index answers
    = slots ++ slotsFrom slots.length (arrivals.take (index + 1 - slots.length))
      ++ placeholders (slots.length + arrivals.length)
          (index + 1 - (slots.length + arrivals.length))
  := by
  intro arrivals
  rw [ensureSlot]
  split
  next hlisted =>
    have hfull : index + 1 - slots.length = 0 := by omega
    have hfull' : index + 1 - (slots.length + arrivals.length) = 0 := by omega
    simp [hfull, hfull', slotsFrom, placeholders]
  next hmissing =>
    simp only [addContacts_eq, List.length_append, length_slotsFrom, List.length_take]
    change _ ++ placeholders (slots.length + min _ arrivals.length) _ = _
    by_cases hmany : index + 1 - slots.length ≤ arrivals.length
    · have hfull : index + 1 - (slots.length + arrivals.length) = 0 := by omega
      have hfull' : index + 1 - (slots.length + (index + 1 - slots.length)) = 0 := by omega
      rw [Nat.min_eq_left hmany, hfull, hfull']
      rfl
    · rw [Nat.min_eq_right (by omega)]

theorem placeholders_append (start count more : Nat) :
  placeholders start count ++ placeholders (start + count) more = placeholders start (count + more)
  := by
  simp [placeholders, List.range_add, Function.comp_def, Nat.add_assoc]

/-- Who is new to a list that has grown has not come in with it. -/
theorem newcomers_ensureSlot (slots : List Reference) (index : Nat) (answers : Answers) :
  newcomers (ensureSlot slots index answers) (AnswerContact.all answers)
    = (newcomers slots (AnswerContact.all answers)).drop (index + 1 - slots.length)
  := by
  rw [ensureSlot_eq]
  generalize harrivals : newcomers slots (AnswerContact.all answers) = arrivals
  by_cases hmany : index + 1 - slots.length ≤ arrivals.length
  · have hfull : index + 1 - (slots.length + arrivals.length) = 0 := by omega
    rw [hfull, placeholders, List.range_zero, List.map_nil, List.append_nil, ← harrivals,
      newcomers_append_slotsFrom]
  · rw [List.take_of_length_le (by omega), List.drop_of_length_le (by omega)]
    apply newcomers_of_listed
    intro c hc
    rw [← harrivals]
    apply (listed_newcomers hc).mono
    apply List.prefix_append

/-- A list that grows in steps is the one that grows at once. -/
theorem ensureSlot_ensureSlot (slots : List Reference) (i j : Nat) (answers : Answers) :
  ensureSlot (ensureSlot slots i answers) j answers = ensureSlot slots (max i j) answers
  := by
  have hlength := length_ensureSlot slots i answers
  by_cases hbelow : j ≤ i
  · rw [Nat.max_eq_left hbelow, ensureSlot_eq_self]
    omega
  rw [Nat.max_eq_right (Nat.le_of_not_le hbelow), ensureSlot_eq (ensureSlot slots i answers),
    newcomers_ensureSlot, hlength, ensureSlot_eq slots i, ensureSlot_eq slots j]
  generalize newcomers slots (AnswerContact.all answers) = arrivals
  -- Either everybody new has come in with the first step, or it has added no placeholders.
  by_cases hmany : i + 1 - slots.length ≤ arrivals.length
  · have hfull : i + 1 - (slots.length + arrivals.length) = 0 := by omega
    have hroom : j + 1 - slots.length
        = (i + 1 - slots.length) + (j + 1 - max slots.length (i + 1)) := by omega
    have hstart : slots.length + (i + 1 - slots.length) = max slots.length (i + 1) := by omega
    have hend : max slots.length (i + 1) + (arrivals.length - (i + 1 - slots.length))
        = slots.length + arrivals.length := by omega
    rw [hfull, hroom, List.take_add, slotsFrom_append, List.length_take, Nat.min_eq_left hmany, hstart,
      List.length_drop, hend]
    simp [placeholders]
  · have hfirst : i + 1 - (slots.length + arrivals.length)
        + (j + 1 - max slots.length (i + 1)) = j + 1 - (slots.length + arrivals.length) := by omega
    have hstart : slots.length + arrivals.length + (i + 1 - (slots.length + arrivals.length))
        = max slots.length (i + 1) := by omega
    have hall : arrivals.take (j + 1 - slots.length) = arrivals := List.take_of_length_le (by omega)
    rw [List.take_of_length_le (by omega), List.drop_of_length_le (by omega), hall, ← hfirst,
      ← placeholders_append, hstart]
    simp [slotsFrom]

/-! ### What a list grows by -/

/-- A list takes in the newcomers among the first of the people, and all newcomers before it gets
placeholders. -/
theorem exists_ensureSlot_eq (slots : List Reference) (index : Nat) (answers : Answers) :
  ∃ passed left count, AnswerContact.all answers = passed ++ left
    ∧ ensureSlot slots index answers = slots ++ slotsFrom slots.length (newcomers slots passed)
        ++ placeholders (slots.length + (newcomers slots passed).length) count
    ∧ (newcomers slots passed).length + count = index + 1 - slots.length
    ∧ (0 < count → newcomers slots passed = newcomers slots (AnswerContact.all answers))
  := by
  have hgrown := ensureSlot_eq slots index answers
  obtain ⟨passed, left, hpassed, htaken⟩ := exists_newcomers_eq_take slots
    (AnswerContact.all answers) (index + 1 - slots.length)
  generalize newcomers slots (AnswerContact.all answers) = arrivals at hgrown htaken ⊢
  simp only at hgrown
  by_cases hmany : index + 1 - slots.length ≤ arrivals.length
  · have hfull : index + 1 - (slots.length + arrivals.length) = 0 := by omega
    refine ⟨passed, left, 0, hpassed, ?_, ?_, ?_⟩
    · rw [hgrown, ← htaken, hfull]
      rfl
    · rw [htaken, List.length_take, Nat.min_eq_left hmany]
      rfl
    · rintro ⟨⟩
  · have hall : newcomers slots passed = arrivals := by
      rw [htaken]
      apply List.take_of_length_le
      omega
    refine ⟨passed, left, index + 1 - (slots.length + arrivals.length), hpassed, ?_, ?_, ?_⟩
    · rw [hgrown, ← htaken, hall]
    · rw [hall]
      omega
    · exact fun _ => hall

/-- That nothing has happened yet to the slot at a position. -/
structure IsBlank (position : Nat) (slot : Reference) : Prop where
  id : slot.id = slotId position
  status : slot.status = .pending
  notes : slot.notes = none
  contactedAt : slot.contactedAt = none

theorem isBlank_slotsFrom {start i : Nat} {contacts : List AnswerContact} {slot : Reference}
    (h : (slotsFrom start contacts)[i]? = some slot) :
  slot.IsBlank (start + i)
  := by
  rw [getElem?_slotsFrom] at h
  obtain ⟨c, -, rfl⟩ := Option.map_eq_some_iff.mp h
  exact ⟨rfl, rfl, rfl, rfl⟩

theorem isBlank_placeholders {start count i : Nat} {slot : Reference}
    (h : (placeholders start count)[i]? = some slot) :
  slot.IsBlank (start + i)
  := by
  rw [placeholders, List.getElem?_map] at h
  obtain ⟨k, hk, rfl⟩ := Option.map_eq_some_iff.mp h
  obtain ⟨-, rfl⟩ := List.getElem?_eq_some_iff.mp hk
  rw [List.getElem_range]
  exact ⟨rfl, rfl, rfl, rfl⟩

/-- What a list of slots grows into until a position has one: slots for some of the people named
in the answers, and then some placeholders. -/
structure Backfills (slots : List Reference) (index : Nat) (answers : Answers)
    (contacts : List AnswerContact) (count : Nat) (grown : List Reference) : Prop where
  eq : grown = slots ++ slotsFrom slots.length contacts
    ++ placeholders (slots.length + contacts.length) count
  length : grown.length = max slots.length (index + 1)
  inOrder : contacts.Sublist (AnswerContact.all answers)
  /-- Nobody is listed twice. -/
  fresh : ∀ i c, contacts[i]? = some c → ∀ slot ∈ grown.take (slots.length + i),
    c.matchesSlot slot = false
  /-- Nobody is passed over who is not listed. -/
  inTurn : ∃ passed left, AnswerContact.all answers = passed ++ left
    ∧ contacts.Sublist passed ∧ ∀ c ∈ passed, c.Listed grown
  /-- Nobody is left out if there is room for placeholders. -/
  complete : 0 < count → ∀ c ∈ AnswerContact.all answers, c.Listed grown
  blank : ∀ position slot, slots.length ≤ position → grown[position]? = some slot →
    slot.IsBlank position

theorem backfills_ensureSlot (slots : List Reference) (index : Nat) (answers : Answers) :
  ∃ contacts count, Backfills slots index answers contacts count (ensureSlot slots index answers)
    ∧ contacts.length + count = index + 1 - slots.length
  := by
  obtain ⟨passed, left, count, hpassed, heq, hcount, hall⟩ := exists_ensureSlot_eq slots index answers
  have hlisted : slots ++ slotsFrom slots.length (newcomers slots passed)
      <+: ensureSlot slots index answers := by
    rw [heq]
    apply List.prefix_append
  refine ⟨newcomers slots passed, count, ?_, hcount⟩
  constructor
  case eq => exact heq
  case length => apply length_ensureSlot
  case inOrder =>
    rw [hpassed]
    apply (newcomers_sublist slots passed).trans
    apply List.sublist_append_left
  case fresh =>
    intro i c hc
    obtain ⟨hi, -⟩ := List.getElem?_eq_some_iff.mp hc
    have hbefore : (ensureSlot slots index answers).take (slots.length + i)
        = slots ++ slotsFrom slots.length ((newcomers slots passed).take i) := by
      rw [heq, List.append_assoc, List.take_length_add_append, List.take_append_of_le_length,
        take_slotsFrom]
      rw [length_slotsFrom]
      exact Nat.le_of_lt hi
    rw [hbefore]
    apply newcomers_fresh hc
  case inTurn =>
    use passed, left, hpassed, newcomers_sublist slots passed
    intro c hc
    apply (listed_newcomers hc).mono hlisted
  case complete =>
    intro hroom c hc
    rw [hall hroom] at hlisted
    apply (listed_newcomers hc).mono hlisted
  case blank =>
    intro position slot hposition hslot
    obtain ⟨i, rfl⟩ := Nat.exists_eq_add_of_le hposition
    rw [heq, List.append_assoc, List.getElem?_append_right hposition, Nat.add_sub_cancel_left] at hslot
    by_cases hi : i < (newcomers slots passed).length
    · rw [List.getElem?_append_left (by rwa [length_slotsFrom])] at hslot
      apply isBlank_slotsFrom hslot
    · have hbehind := Nat.le_of_not_lt hi
      rw [List.getElem?_append_right (by rwa [length_slotsFrom]), length_slotsFrom] at hslot
      have hblank := isBlank_placeholders hslot
      rwa [Nat.add_assoc, Nat.add_sub_cancel' hbehind] at hblank

end Reference

/-! ### Reports on slots that a list grows by -/

namespace ReferenceUpdate

variable {u v : ReferenceUpdate} {i j : Nat} {slots more : List Reference} {answers : Answers}

theorem applyTo_applyTo (u : ReferenceUpdate) (slot : Reference) :
  u.applyTo (u.applyTo slot) = u.applyTo slot
  := by
  simp only [applyTo, Option.or_self, ← Option.or_assoc]

theorem apply_apply (u : ReferenceUpdate) (i : Nat) (slots : List Reference) :
  u.apply i (u.apply i slots) = u.apply i slots
  := by
  have htwice : u.applyTo ∘ u.applyTo = u.applyTo := funext u.applyTo_applyTo
  rw [apply, apply, List.modify_modify_eq, htwice]

theorem apply_append (u : ReferenceUpdate) (h : i < slots.length) (more : List Reference) :
  u.apply i (slots ++ more) = u.apply i slots ++ more
  := by
  have hslot : slots[i]? = some slots[i] := List.getElem?_eq_getElem h
  have hslot' : (slots ++ more)[i]? = some slots[i] := by
    rw [List.getElem?_append_left h, hslot]
  rw [u.apply_eq_set hslot, u.apply_eq_set hslot', List.set_append_left i _ h]

/-- A list with a report on one of its slots grows as it does without. -/
theorem ensureSlot_apply (u : ReferenceUpdate) (h : i < slots.length) (j : Nat) (answers : Answers) :
  Reference.ensureSlot (u.apply i slots) j answers = u.apply i (Reference.ensureSlot slots j answers)
  := by
  have haddresses : (u.apply i slots).map AnswerContact.addressOf
      = slots.map AnswerContact.addressOf := u.map_apply (fun _ => rfl) i slots
  rw [Reference.ensureSlot_eq, Reference.ensureSlot_eq, AnswerContact.newcomers_congr haddresses,
    u.length_apply, List.append_assoc, List.append_assoc, u.apply_append h]

/-- The slots with the outcome reported on the one at a position, which the list grows to have. -/
def report (u : ReferenceUpdate) (index : Nat) (answers : Answers) (slots : List Reference) :
    List Reference :=
  u.apply index (Reference.ensureSlot slots index answers)

/-- The list that a report leaves has the slot that is meant. -/
theorem lt_length_report (u : ReferenceUpdate) (index : Nat) (answers : Answers)
    (slots : List Reference) :
  index < (u.report index answers slots).length
  := by
  rw [report, u.length_apply, Reference.length_ensureSlot]
  omega

/-- A report that is made twice is one that is made once. -/
theorem report_report (u : ReferenceUpdate) (index : Nat) (answers : Answers)
    (slots : List Reference) :
  u.report index answers (u.report index answers slots) = u.report index answers slots
  := by
  have hlisted := u.lt_length_report index answers slots
  rw [report, Reference.ensureSlot_eq_self hlisted, report, u.apply_apply]

/-- Reports on different slots commute. -/
theorem report_comm (u v : ReferenceUpdate) (h : i ≠ j) (answers : Answers) (slots : List Reference) :
  v.report j answers (u.report i answers slots) = u.report i answers (v.report j answers slots)
  := by
  have hgrown : ∀ (u v : ReferenceUpdate) (i j : Nat), v.report j answers (u.report i answers slots)
      = v.apply j (u.apply i (Reference.ensureSlot slots (max i j) answers)) := by
    intro u v i j
    rw [report, report, u.ensureSlot_apply, Reference.ensureSlot_ensureSlot]
    rw [Reference.length_ensureSlot]
    omega
  rw [hgrown, hgrown, Nat.max_comm j i, apply, apply, List.modify_modify_ne _ _ _ h]
  rfl

end ReferenceUpdate

end Rehoming
