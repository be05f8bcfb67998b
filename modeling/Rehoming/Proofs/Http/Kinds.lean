import Rehoming.Http.Handler
import Rehoming.Proofs.Text.Pieces
import Rehoming.Proofs.Text.Trim
/-!
# Kinds of events in a query

A query names the kinds of events that it asks for in one text, with commas between them.  White
space around a name does not count, and neither does a segment without a name; the names are the
labels of the kinds, and a list of kinds that is written with them is read back.  The first segment
with another name is refused.
-/

namespace Rehoming

/-! ### Labels -/

namespace EventType

variable {t : EventType} {word : String}

/-- Kinds are told apart by their names. -/
theorem find?_name_eq_some_iff :
  (all.find? fun t => t.name = word) = some t ↔ word = t.name
  := by
  constructor
  · intro h
    have hname : t.name = word := by simpa using List.find?_some h
    exact hname.symm
  · rintro rfl
    cases t <;> rfl

/-- The names that are read in documents are the labels of the kinds. -/
theorem ofJson_str_eq_ok_iff :
  ofJson (.str word) = .ok t ↔ word = t.label
  := by
  rw [← name_eq_label, ← find?_name_eq_some_iff, ofJson, Json.Decoder.label, Json.Decoder.label.find]
  cases all.find? fun t => t.name = word with
  | none => simp
  | some t' => simp

theorem exists_ofJson_str_eq_error_iff :
  (∃ e, ofJson (.str word) = .error e) ↔ ∀ t : EventType, word ≠ t.label
  := by
  constructor
  · rintro ⟨e, h⟩ t hlabel
    rw [ofJson_str_eq_ok_iff.mpr hlabel] at h
    cases h
  · intro h
    cases hread : ofJson (.str word) with
    | error e => exact ⟨e, rfl⟩
    | ok t => exact absurd (ofJson_str_eq_ok_iff.mp hread) (h t)

/-- A label holds neither white space nor a comma. -/
theorem label_plain (t : EventType) :
  ∀ c ∈ t.label.toList, Text.isWhite c = false ∧ c ≠ ','
  := by
  -- A test of the list is evaluated, since `decide` may run through all characters instead.
  have hall : (t.label.toList.all fun c => !Text.isWhite c && c != ',') = true := by
    cases t <;> rfl
  simpa using hall

end EventType

namespace Http

variable {segment s : String} {segments before after : List String} {types : List EventType}
  {t : EventType} {e : Refusal}

/-! ### Segments -/

/-- A segment without a name, or with the label of a kind for a name. -/
def IsKnown (segment : String) : Prop :=
  Text.isBlank segment = true ∨ ∃ t : EventType, Text.trim segment = t.label

/-- The refusal of a name that is the label of no kind. -/
def unknownKind (name : String) : Refusal :=
  .invalidInput [⟨"event_types", "unknown timeline event type '" ++ name ++ "'", "INVALID_OPTION"⟩]

/-- Segments that spell some kinds: the label of each of them in order, with any white space around
it, and any blank segments between them. -/
inductive Spells : List String → List EventType → Prop
  | nil : Spells [] []
  | blank {segment : String} (hblank : Text.isBlank segment = true) {segments : List String}
      {types : List EventType} (h : Spells segments types) : Spells (segment :: segments) types
  | label (t : EventType) {front back : String} (hfront : Text.isBlank front = true)
      (hback : Text.isBlank back = true) {segments : List String} {types : List EventType}
      (h : Spells segments types) : Spells ((front ++ t.label ++ back) :: segments) (t :: types)

/-- A name is the label of a kind if nothing but white space stands around it in its segment. -/
theorem trim_eq_label_iff :
  Text.trim segment = t.label
    ↔ ∃ front back, segment = front ++ t.label ++ back
      ∧ Text.isBlank front = true ∧ Text.isBlank back = true
  := by
  constructor
  · intro h
    obtain ⟨front, back, heq, hwhite⟩ := Text.exists_eq_append_trimChars segment.toList
    rw [List.forall_mem_append] at hwhite
    use String.ofList front, String.ofList back
    refine ⟨?_, by simpa [Text.isBlank] using hwhite.1, by simpa [Text.isBlank] using hwhite.2⟩
    rw [← h, Text.trim, ← String.ofList_append, ← String.ofList_append, ← heq, String.ofList_toList]
  · rintro ⟨front, back, rfl, hfront, hback⟩
    rw [Text.isBlank, List.all_eq_true] at hfront hback
    rw [Text.trim, String.toList_append, String.toList_append, Text.trimChars_append_right hback,
      Text.trimChars_append_left hfront,
      Text.trimChars_of_not_isWhite fun c hc => (t.label_plain c hc).1, String.ofList_toList]

/-! ### One segment after the other -/

theorem eventTypes_cons_of_isBlank (h : Text.isBlank segment = true) (segments : List String) :
  eventTypes (segment :: segments) = eventTypes segments
  := by
  rw [eventTypes]
  exact if_pos (Text.isBlank_iff.mp h)

theorem eventTypes_cons_of_label (h : Text.trim segment = t.label) (segments : List String) :
  eventTypes (segment :: segments) = (eventTypes segments).map (t :: ·)
  := by
  have hname : t.label ≠ "" := by cases t <;> decide
  rw [eventTypes]
  simp only [h, if_neg hname, EventType.ofJson_str_eq_ok_iff.mpr rfl]
  cases eventTypes segments <;> rfl

theorem eventTypes_cons_of_unknown (h : ¬ IsKnown segment) (segments : List String) :
  eventTypes (segment :: segments) = .error (unknownKind (Text.trim segment))
  := by
  obtain ⟨hblank, hlabel⟩ := not_or.mp h
  rw [Text.isBlank_iff] at hblank
  obtain ⟨e, hread⟩ := EventType.exists_ofJson_str_eq_error_iff.mpr (not_exists.mp hlabel)
  rw [eventTypes]
  simp only [if_neg hblank, hread]
  rfl

/-- The kinds that are read are those that the segments spell. -/
theorem eventTypes_eq_ok_iff :
  eventTypes segments = .ok types ↔ Spells segments types
  := by
  constructor
  · intro h
    induction segments generalizing types with
    | nil =>
      obtain rfl := Except.ok.inj h
      exact .nil
    | cons segment rest ih =>
      by_cases hknown : IsKnown segment
      · obtain hblank | ⟨t, hlabel⟩ := hknown
        · rw [eventTypes_cons_of_isBlank hblank] at h
          exact .blank hblank (ih h)
        · rw [eventTypes_cons_of_label hlabel] at h
          obtain ⟨front, back, rfl, hfront, hback⟩ := trim_eq_label_iff.mp hlabel
          cases hrest : eventTypes rest with
          | error e =>
            rw [hrest] at h
            cases h
          | ok more =>
            rw [hrest] at h
            obtain rfl := Except.ok.inj h
            exact .label t hfront hback (ih hrest)
      · rw [eventTypes_cons_of_unknown hknown] at h
        cases h
  · intro h
    induction h with
    | nil => rfl
    | blank hblank _ ih => rw [eventTypes_cons_of_isBlank hblank, ih]
    | @label t front back hfront hback _ _ _ ih =>
      have hlabel : Text.trim (front ++ t.label ++ back) = t.label :=
        trim_eq_label_iff.mpr ⟨front, back, rfl, hfront, hback⟩
      rw [eventTypes_cons_of_label hlabel, ih]
      rfl

/-- Known segments spell some kinds. -/
theorem exists_spells (h : ∀ segment ∈ segments, IsKnown segment) :
  ∃ types, Spells segments types
  := by
  induction segments with
  | nil => exact ⟨[], .nil⟩
  | cons segment rest ih =>
    obtain ⟨hknown, hrest⟩ := List.forall_mem_cons.mp h
    obtain ⟨types, hspells⟩ := ih hrest
    obtain hblank | ⟨t, hlabel⟩ := hknown
    · exact ⟨types, .blank hblank hspells⟩
    · obtain ⟨front, back, rfl, hfront, hback⟩ := trim_eq_label_iff.mp hlabel
      exact ⟨t :: types, .label t hfront hback hspells⟩

/-- A segment that is not known is refused, whatever stands behind it. -/
theorem eventTypes_of_unknown (hbefore : ∀ segment ∈ before, IsKnown segment)
    (h : ¬ IsKnown segment) :
  eventTypes (before ++ segment :: after) = .error (unknownKind (Text.trim segment))
  := by
  induction before with
  | nil => exact eventTypes_cons_of_unknown h after
  | cons first rest ih =>
    obtain ⟨hfirst, hrest⟩ := List.forall_mem_cons.mp hbefore
    rw [List.cons_append]
    obtain hblank | ⟨t, hlabel⟩ := hfirst
    · rw [eventTypes_cons_of_isBlank hblank, ih hrest]
    · rw [eventTypes_cons_of_label hlabel, ih hrest]
      rfl

/-- Either all segments are known, or there is a first one that is not. -/
theorem all_known_or_exists_first (segments : List String) :
  (∀ segment ∈ segments, IsKnown segment)
    ∨ ∃ before segment after, segments = before ++ segment :: after
      ∧ (∀ segment ∈ before, IsKnown segment) ∧ ¬ IsKnown segment
  := by
  induction segments with
  | nil => exact .inl nofun
  | cons first rest ih =>
    by_cases hfirst : IsKnown first
    · obtain hall | ⟨before, segment, after, rfl, hbefore, hunknown⟩ := ih
      · exact .inl (List.forall_mem_cons.mpr ⟨hfirst, hall⟩)
      · exact .inr ⟨first :: before, segment, after, rfl,
          List.forall_mem_cons.mpr ⟨hfirst, hbefore⟩, hunknown⟩
    · exact .inr ⟨[], first, rest, rfl, nofun, hfirst⟩

/-- Kinds are read exactly if all segments are known. -/
theorem exists_eventTypes_iff :
  (∃ types, eventTypes segments = .ok types) ↔ ∀ segment ∈ segments, IsKnown segment
  := by
  constructor
  · rintro ⟨types, h⟩
    obtain hall | ⟨before, segment, after, rfl, hbefore, hunknown⟩ :=
      all_known_or_exists_first segments
    · exact hall
    · rw [eventTypes_of_unknown hbefore hunknown] at h
      cases h
  · intro h
    obtain ⟨types, hspells⟩ := exists_spells h
    exact ⟨types, eventTypes_eq_ok_iff.mpr hspells⟩

/-- What is refused is the name in the first segment that is not known. -/
theorem eventTypes_eq_error_iff :
  eventTypes segments = .error e
    ↔ ∃ before segment after, segments = before ++ segment :: after
      ∧ (∀ segment ∈ before, IsKnown segment) ∧ ¬ IsKnown segment
      ∧ e = unknownKind (Text.trim segment)
  := by
  constructor
  · intro h
    obtain hall | ⟨before, segment, after, rfl, hbefore, hunknown⟩ :=
      all_known_or_exists_first segments
    · obtain ⟨types, hok⟩ := exists_eventTypes_iff.mpr hall
      rw [hok] at h
      cases h
    · rw [eventTypes_of_unknown hbefore hunknown] at h
      exact ⟨before, segment, after, rfl, hbefore, hunknown, (Except.error.inj h).symm⟩
  · rintro ⟨before, segment, after, rfl, hbefore, hunknown, rfl⟩
    exact eventTypes_of_unknown hbefore hunknown

/-! ### Whole texts -/

/-- Segments that spell kinds hold no commas. -/
theorem Spells.not_mem_comma (h : Spells segments types) :
  ∀ segment ∈ segments, ',' ∉ segment.toList
  := by
  have hblank : ∀ {s : String}, Text.isBlank s = true → ',' ∉ s.toList := by
    intro s hs hmem
    have hwhite := List.all_eq_true.mp hs ',' hmem
    revert hwhite
    decide
  induction h with
  | nil => nofun
  | blank hsegment _ ih => exact List.forall_mem_cons.mpr ⟨hblank hsegment, ih⟩
  | @label t front back hfront hback _ _ _ ih =>
    have hlabel : ',' ∉ t.label.toList := fun hmem => (t.label_plain ',' hmem).2 rfl
    have hsegment : ',' ∉ (front ++ t.label ++ back).toList := by
      simp only [String.toList_append, List.mem_append, not_or]
      exact ⟨⟨hblank hfront, hlabel⟩, hblank hback⟩
    exact List.forall_mem_cons.mpr ⟨hsegment, ih⟩

/-- Segments that spell kinds are read back from their text. -/
theorem Spells.eventTypesOf_join (h : Spells segments types) :
  eventTypesOf (some (Text.join "," segments)) = .ok types
  := by
  cases segments with
  | nil =>
    cases h
    decide
  | cons segment rest =>
    have hsplit : Text.split ',' (Text.join "," (segment :: rest)) = segment :: rest :=
      Text.split_join (List.cons_ne_nil segment rest) h.not_mem_comma
    rw [eventTypesOf, hsplit, eventTypes_eq_ok_iff]
    exact h

/-- Kinds go by their labels, and a text names the kinds that its segments between commas spell.  It
names any exactly if every segment is blank or holds the label of a kind, with white space around it
or not; otherwise the first one that does not is refused.  So kinds whose labels are joined by
commas, with any white space around them and any blank segments between them, are read back. -/
theorem kinds_read_back :
  (∀ (t : EventType) (name : String), EventType.ofJson (.str name) = .ok t ↔ name = t.label)
  ∧ (∀ (s : String) (types : List EventType),
      eventTypesOf (some s) = .ok types ↔ Spells (Text.split ',' s) types)
  ∧ (∀ s : String, (∃ types, eventTypesOf (some s) = .ok types)
      ↔ ∀ segment ∈ Text.split ',' s, IsKnown segment)
  ∧ (∀ (s : String) (e : Refusal), eventTypesOf (some s) = .error e
      ↔ ∃ before segment after, Text.split ',' s = before ++ segment :: after
        ∧ (∀ segment ∈ before, IsKnown segment) ∧ ¬ IsKnown segment
        ∧ e = unknownKind (Text.trim segment))
  ∧ ∀ (segments : List String) (types : List EventType), Spells segments types →
      eventTypesOf (some (Text.join "," segments)) = .ok types
  := by
  refine ⟨fun _ _ => EventType.ofJson_str_eq_ok_iff, fun _ _ => eventTypes_eq_ok_iff,
    fun _ => exists_eventTypes_iff, fun _ _ => eventTypes_eq_error_iff, ?_⟩
  intro segments types h
  exact h.eventTypesOf_join

/-- Kinds may be spelled with blanks around their labels and gaps between them, and more than
once. -/
theorem gappy_kinds_read_back :
  Spells [" note_added", " ", "status_update\t", "", "note_added"]
      [.noteAdded, .statusUpdate, .noteAdded]
  ∧ eventTypesOf (some " note_added, ,status_update\t,,note_added")
      = .ok [.noteAdded, .statusUpdate, .noteAdded]
  := by
  have hspells : Spells [" note_added", " ", "status_update\t", "", "note_added"]
      [.noteAdded, .statusUpdate, .noteAdded] := by
    rw [← eventTypes_eq_ok_iff]
    decide
  obtain ⟨-, -, -, -, hread⟩ := kinds_read_back
  exact ⟨hspells, hread _ _ hspells⟩

end Http

end Rehoming
