import Rehoming.Proofs.Collection.Stable
import Rehoming.Proofs.Search.Pages
import Rehoming.Proofs.Time.Instant
import Rehoming.World.Basic
/-!
# Pages of a timeline

A query shows the events of an application of some kinds: each of them once, newest first, and those
of the same time in the order in which they were recorded.  Cut into slices of some length, one
after the other, nothing of it is lost.  When one more event is recorded, it takes its place behind
the events that are not older, and all others stay in their order.
-/

namespace Rehoming

variable {recorded : List TimelineEvent} {id : ApplicationId} {types : List EventType}
  {entries entries' : List (TimelineEvent × Nat)} {e : TimelineEvent}

/-! ### What is shown -/

/-- An event of an application, and of one of some kinds if there are any. -/
def TimelineEvent.IsOf (id : ApplicationId) (types : List EventType) (e : TimelineEvent) : Prop :=
  e.applicationId = id ∧ (types = [] ∨ e.eventType ∈ types)

instance : DecidablePred (TimelineEvent.IsOf id types) :=
  fun _ => inferInstanceAs (Decidable (_ ∧ _))

/-- An event with its place in the timeline is shown before another one: it is newer, or it was
recorded earlier at the same time. -/
def IsShownBefore (a b : TimelineEvent × Nat) : Prop :=
  b.1.createdAt < a.1.createdAt ∨ a.1.createdAt = b.1.createdAt ∧ a.2 < b.2

/-- The events of an application of some kinds, each at its place in the timeline, in the order in
which they are shown. -/
structure IsShown (recorded : List TimelineEvent) (id : ApplicationId) (types : List EventType)
    (entries : List (TimelineEvent × Nat)) : Prop where
  nodup : entries.Nodup
  mem_iff : ∀ (e : TimelineEvent) (place : Nat),
    (e, place) ∈ entries ↔ recorded[place]? = some e ∧ e.IsOf id types
  ordered : entries.Pairwise IsShownBefore

/-- That one more event takes its place among events that are shown, behind those that are not
older and before those that are. -/
def Inserts (e : TimelineEvent) (before after : List TimelineEvent) : Prop :=
  ∃ newer older, before = newer ++ older ∧ after = newer ++ e :: older
    ∧ (∀ a ∈ newer, e.createdAt ≤ a.createdAt) ∧ ∀ a ∈ older, a.createdAt < e.createdAt

namespace TimelineEvent

/-- Whether an event may be shown before another one. -/
def isNotOlder (a b : TimelineEvent) : Bool :=
  decide (b.createdAt ≤ a.createdAt)

theorem isNotOlder_trans (a b c : TimelineEvent) (hab : isNotOlder a b = true)
    (hbc : isNotOlder b c = true) :
  isNotOlder a c = true
  := by
  rw [isNotOlder, decide_eq_true_iff] at *
  exact Time.Instant.le_trans hbc hab

theorem isNotOlder_total (a b : TimelineEvent) :
  (isNotOlder a b || isNotOlder b a) = true
  := by
  simp only [isNotOlder, Bool.or_eq_true, decide_eq_true_iff, Time.Instant.le_iff]
  omega

end TimelineEvent

theorem isShownBefore_iff {a b : TimelineEvent × Nat} :
  IsShownBefore a b
    ↔ TimelineEvent.isNotOlder a.1 b.1 = true
      ∧ (TimelineEvent.isNotOlder b.1 a.1 = true → a.2 < b.2)
  := by
  have heq : a.1.createdAt = b.1.createdAt ↔ a.1.createdAt.ticks = b.1.createdAt.ticks :=
    ⟨congrArg Time.Instant.ticks, congrArg Time.Instant.mk⟩
  simp only [IsShownBefore, TimelineEvent.isNotOlder, decide_eq_true_iff, Time.Instant.le_iff,
    Time.Instant.lt_iff, heq]
  omega

theorem isShownBefore_asymm {a b : TimelineEvent × Nat} (h : IsShownBefore a b) :
  ¬ IsShownBefore b a
  := by
  intro h'
  rw [isShownBefore_iff] at h h'
  exact Nat.lt_asymm (h.2 h'.1) (h'.2 h.1)

namespace IsShown

/-- What is shown is determined by what has been recorded. -/
theorem unique (h : IsShown recorded id types entries) (h' : IsShown recorded id types entries') :
  entries = entries'
  := by
  have hperm : entries.Perm entries' := by
    rw [List.perm_ext_iff_of_nodup h.nodup h'.nodup]
    rintro ⟨e, place⟩
    rw [h.mem_iff, h'.mem_iff]
  apply hperm.eq_of_pairwise _ h.ordered h'.ordered
  intro a b _ _ hab hba
  cases isShownBefore_asymm hab hba

/-! ### One more event -/

/-- What is recorded last stands at the last place. -/
theorem place_lt_or_eq (h : IsShown (recorded ++ [e]) id types entries) {a : TimelineEvent}
    {place : Nat} (hmem : (a, place) ∈ entries) :
  place < recorded.length ∨ a = e ∧ place = recorded.length
  := by
  obtain ⟨hplace, -⟩ := (h.mem_iff a place).mp hmem
  obtain ⟨hroom, -⟩ := List.getElem?_eq_some_iff.mp hplace
  rw [List.length_append, List.length_singleton, Nat.lt_succ_iff] at hroom
  obtain hearlier | rfl := Nat.lt_or_eq_of_le hroom
  · exact .inl hearlier
  · rw [List.getElem?_concat_length] at hplace
    exact .inr ⟨(Option.some.inj hplace).symm, rfl⟩

/-- Without the event that is recorded last, the others are shown as they were before. -/
theorem filter_place (h : IsShown (recorded ++ [e]) id types entries) :
  IsShown recorded id types (entries.filter fun a => a.2 < recorded.length)
  where
    nodup := h.nodup.filter _
    mem_iff a place := by
      rw [List.mem_filter, h.mem_iff, decide_eq_true_iff]
      constructor
      · rintro ⟨⟨hplace, hof⟩, hearlier⟩
        rw [List.getElem?_append_left hearlier] at hplace
        exact ⟨hplace, hof⟩
      · rintro ⟨hplace, hof⟩
        obtain ⟨hearlier, -⟩ := List.getElem?_eq_some_iff.mp hplace
        rw [List.getElem?_append_left hearlier]
        exact ⟨⟨hplace, hof⟩, hearlier⟩
    ordered := h.ordered.filter _

/-- An event that is not asked for changes nothing. -/
theorem eq_of_not_isOf (h : IsShown recorded id types entries)
    (h' : IsShown (recorded ++ [e]) id types entries') (he : ¬ e.IsOf id types) :
  entries' = entries
  := by
  have hall : (entries'.filter fun a => a.2 < recorded.length) = entries' := by
    rw [List.filter_eq_self]
    rintro ⟨a, place⟩ hmem
    obtain hearlier | ⟨rfl, -⟩ := h'.place_lt_or_eq hmem
    · exact decide_eq_true hearlier
    · cases he ((h'.mem_iff _ _).mp hmem).2
  rw [← hall, h'.filter_place.unique h]

/-- Around the event that is recorded last, what is shown was recorded before it. -/
theorem place_lt_of_mem {newer older : List (TimelineEvent × Nat)}
    (h : IsShown (recorded ++ [e]) id types (newer ++ (e, recorded.length) :: older)) :
  ∀ a ∈ newer ++ older, a.2 < recorded.length
  := by
  rintro ⟨a, place⟩ ha
  have hmem : (a, place) ∈ newer ++ (e, recorded.length) :: older := by
    simp only [List.mem_append, List.mem_cons] at ha ⊢
    tauto
  obtain hearlier | ⟨rfl, rfl⟩ := h.place_lt_or_eq hmem
  · exact hearlier
  · cases (List.nodup_cons.mp (List.nodup_middle.mp h.nodup)).1 ha

/-- An event that is asked for is shown once more, and the others stay as they are shown. -/
theorem inserts (h : IsShown recorded id types entries)
    (h' : IsShown (recorded ++ [e]) id types entries') (he : e.IsOf id types) :
  Inserts e (entries.map Prod.fst) (entries'.map Prod.fst)
  := by
  have hmem : (e, recorded.length) ∈ entries' := by
    rw [h'.mem_iff, List.getElem?_concat_length]
    exact ⟨rfl, he⟩
  obtain ⟨newer, older, rfl⟩ := List.append_of_mem hmem
  have hearlier := h'.place_lt_of_mem
  -- Without the new entry there is left what was shown before, since that is unique.
  have hothers : entries = newer ++ older := by
    rw [← h'.filter_place.unique h, List.filter_append, List.filter_cons_of_neg (by simp),
      ← List.filter_append, List.filter_eq_self]
    exact fun a ha => decide_eq_true (hearlier a ha)
  obtain ⟨-, hbehind, hbefore⟩ := List.pairwise_append.mp h'.ordered
  refine ⟨newer.map Prod.fst, older.map Prod.fst, by simp [hothers], by simp, ?_, ?_⟩
  · intro a ha
    obtain ⟨entry, hentry, rfl⟩ := List.mem_map.mp ha
    have hshown := hbefore entry hentry _ List.mem_cons_self
    exact of_decide_eq_true (isShownBefore_iff.mp hshown).1
  · intro a ha
    obtain ⟨entry, hentry, rfl⟩ := List.mem_map.mp ha
    obtain hnewer | ⟨-, hplace⟩ := (List.pairwise_cons.mp hbehind).1 entry hentry
    · exact hnewer
    · cases Nat.lt_asymm hplace (hearlier entry (List.mem_append_right _ hentry))

end IsShown

/-! ### What is told of an application -/

namespace World

variable {w : World}

/-- The events of an application that a query shows. -/
def told (w : World) (id : ApplicationId) (q : TimelineQuery) : List TimelineEvent :=
  q.apply (w.eventsOf id)

/-- The events of an application of some kinds at their places, in the order in which they are
shown. -/
def entriesOf (w : World) (id : ApplicationId) (types : List EventType) :
    List (TimelineEvent × Nat) :=
  (w.timeline.zipIdx.filter fun a => a.1.IsOf id types).mergeSort fun a b =>
    TimelineEvent.isNotOlder a.1 b.1

theorem isShown_entriesOf (w : World) (id : ApplicationId) (types : List EventType) :
  IsShown w.timeline id types (w.entriesOf id types)
  := by
  have hperm : (w.entriesOf id types).Perm
      (w.timeline.zipIdx.filter fun a => a.1.IsOf id types) := List.mergeSort_perm ..
  have hplaces : w.timeline.zipIdx.Pairwise fun a b => a.2 < b.2 := by
    rw [← List.pairwise_map (f := Prod.snd), List.zipIdx_map_snd]
    exact List.pairwise_lt_range' 1
  have hordered : (w.entriesOf id types).Pairwise IsShownBefore := by
    have hsorted := pairwise_mergeSort_stable
      (fun a b : TimelineEvent × Nat => TimelineEvent.isNotOlder a.1 b.1)
      (fun a b c => TimelineEvent.isNotOlder_trans a.1 b.1 c.1)
      (fun a b => TimelineEvent.isNotOlder_total a.1 b.1)
      (hplaces.filter fun a => a.1.IsOf id types)
    apply hsorted.imp
    intro a b h
    exact isShownBefore_iff.mpr h
  constructor
  case nodup =>
    apply hordered.imp
    rintro a _ h rfl
    exact isShownBefore_asymm h h
  case mem_iff =>
    intro e place
    rw [hperm.mem_iff, List.mem_filter, List.mem_zipIdx_iff_getElem?, decide_eq_true_iff]
  case ordered => exact hordered

/-- The events that a query selects are those that are recorded and asked for. -/
theorem filter_isOf (w : World) (id : ApplicationId) (types : List EventType) :
  (w.timeline.filter fun e => e.IsOf id types)
    = (w.eventsOf id).filter fun e => ({ eventTypes := types } : TimelineQuery).shows e.eventType
  := by
  rw [eventsOf, List.filter_filter]
  apply List.filter_congr
  intro e _
  rw [Bool.eq_iff_iff, decide_eq_true_iff, Bool.and_eq_true]
  simp [TimelineEvent.IsOf, TimelineQuery.shows, and_comm]

theorem map_fst_entriesOf (w : World) (id : ApplicationId) (types : List EventType) :
  (w.entriesOf id types).map Prod.fst = w.told id { eventTypes := types }
  := by
  have hfilter : (w.timeline.zipIdx.filter fun a => a.1.IsOf id types).map Prod.fst
      = w.timeline.filter fun e => e.IsOf id types := by
    conv_rhs => rw [← List.zipIdx_map_fst 0 w.timeline, List.filter_map]
    rfl
  rw [entriesOf, List.map_mergeSort (s := TimelineEvent.isNotOlder) fun _ _ _ _ => rfl, hfilter,
    filter_isOf]
  rfl

/-- A slice of what is shown. -/
theorem told_slice (w : World) (id : ApplicationId) (types : List EventType) (size offset : Nat) :
  w.told id { eventTypes := types, limit := some size, offset := some offset }
    = ((w.told id { eventTypes := types }).drop offset).take size
  := rfl

/-- Nothing is shown from the end on. -/
theorem told_beyond {offset : Nat} (h : (w.told id { eventTypes := types }).length ≤ offset)
    (limit : Option Nat) :
  w.told id { eventTypes := types, limit, offset := some offset } = []
  := by
  have hrest : (w.told id { eventTypes := types }).drop offset = [] := List.drop_eq_nil_of_le h
  cases limit with
  | none => exact hrest
  | some size => rw [told_slice, hrest, List.take_nil]

end World

/-- The slices of a list that are not empty are the first ones, and they make up the list. -/
theorem exists_slices {α : Type} (l : List α) {size : Nat} (hsize : 0 < size) :
  ∃ count, (∀ k, (l.drop (k * size)).take size = [] ↔ count ≤ k)
    ∧ ∀ more, count ≤ more →
      ((List.range more).flatMap fun k => (l.drop (k * size)).take size) = l
  := by
  have hcount : ∀ k, l.length ≤ k * size ↔ (l.length + size - 1) / size ≤ k := by
    intro k
    rw [← Nat.not_lt, ← Nat.not_lt, ← Nat.add_one_le_iff (n := k), Nat.le_div_iff_mul_le hsize,
      Nat.succ_mul]
    omega
  use (l.length + size - 1) / size
  constructor
  · intro k
    rw [← hcount, List.take_eq_nil_iff, List.drop_eq_nil_iff]
    omega
  · intro more hmore
    rw [flatMap_range_take_drop, List.take_of_length_le ((hcount more).mpr hmore)]

/-- A query for the events of an application, perhaps of some kinds only, shows each of them once,
newest first and those of the same time in the order in which they were recorded.  The slices of
some length, one after the other until they are empty, are all that it shows; from the end on there
is nothing.  One more event that is asked for takes its place among the others, which stay in their
order, and one that is not changes nothing. -/
theorem timeline_pages_complete (w : World) (id : ApplicationId) (types : List EventType) {size : Nat}
    (hsize : 0 < size) :
  let whole := w.told id { eventTypes := types }
  let slice (offset : Nat) :=
    w.told id { eventTypes := types, limit := some size, offset := some offset }
  (∀ q, World.answer (.eventsFor id q) w = (.ok (w.told id q), w))
  ∧ (∃ entries, IsShown w.timeline id types entries ∧ entries.map Prod.fst = whole)
  ∧ (∃ count, (∀ k, slice (k * size) = [] ↔ count ≤ k)
      ∧ ∀ more, count ≤ more → ((List.range more).flatMap fun k => slice (k * size)) = whole)
  ∧ (∀ limit offset, whole.length ≤ offset →
      w.told id { eventTypes := types, limit, offset := some offset } = [])
  ∧ ∀ e : TimelineEvent,
      let later := (World.answer (.record e) w).2
      (e.IsOf id types → Inserts e whole (later.told id { eventTypes := types }))
      ∧ (¬ e.IsOf id types → later.told id { eventTypes := types } = whole)
  := by
  intro whole slice
  refine ⟨fun _ => rfl, ⟨_, w.isShown_entriesOf id types, w.map_fst_entriesOf id types⟩,
    exists_slices whole hsize, fun limit _ h => World.told_beyond h limit, ?_⟩
  intro e later
  have hbefore := w.isShown_entriesOf id types
  have hafter : IsShown (w.timeline ++ [e]) id types (later.entriesOf id types) :=
    later.isShown_entriesOf id types
  constructor
  · intro he
    have hinserts := hbefore.inserts hafter he
    rwa [World.map_fst_entriesOf, World.map_fst_entriesOf] at hinserts
  · intro he
    rw [← World.map_fst_entriesOf, hbefore.eq_of_not_isOf hafter he, World.map_fst_entriesOf]

/-! ### An approval and what it settles -/

namespace Demo

/-- The application is submitted. -/
def submitted : TimelineEvent :=
  .authored "event-1" ⟨"app-1"⟩ .statusUpdate "Application submitted" ⟨"user-1"⟩ ⟨0⟩

/-- The application is approved. -/
def approved : TimelineEvent :=
  .authored "event-3" ⟨"app-1"⟩ .applicationApproved "Application approved" ⟨"staff-1"⟩ ⟨9⟩

/-- The stage of the application is settled at the moment of the approval. -/
def stageSettled : TimelineEvent :=
  .stageSettled "event-4" ⟨"app-1"⟩ "status changed to approved" .pending .resolved ⟨9⟩

/-- A note on the application of a time before the approval. -/
def lateNote : TimelineEvent :=
  .noteAdded "event-5" ⟨"app-1"⟩ "interview" "Has a garden" ⟨"staff-1"⟩ ⟨7⟩

/-- The world in which all of this but the note has been recorded, and that another application has
been submitted meanwhile. -/
def settled : World where
  naming := .numbered
  clock := ⟨9⟩
  timeline :=
    [submitted, .authored "event-2" ⟨"app-2"⟩ .statusUpdate "Application submitted" ⟨"user-2"⟩ ⟨5⟩,
      approved, stageSettled]

theorem told_settled :
  settled.told ⟨"app-1"⟩ {} = [approved, stageSettled, submitted]
  := by
  have hevents : settled.eventsOf ⟨"app-1"⟩ = [submitted, approved, stageSettled] := rfl
  have hsubmitted : submitted.createdAt = ⟨0⟩ := rfl
  have happroved : approved.createdAt = ⟨9⟩ := rfl
  have hsettled : stageSettled.createdAt = ⟨9⟩ := rfl
  simp [World.told, hevents, TimelineQuery.apply, TimelineQuery.selected, TimelineQuery.shows,
    List.mergeSort, hsubmitted, happroved, hsettled, Time.Instant.le_iff]

end Demo

/-- The approval is shown before the stage that it settles and both before the submission, on two
pages of two events; a note that is recorded later takes its place among them. -/
theorem settled_pages_complete :
  let whole := Demo.settled.told ⟨"app-1"⟩ {}
  let slice (offset : Nat) :=
    Demo.settled.told ⟨"app-1"⟩ { limit := some 2, offset := some offset }
  0 < 2 ∧ whole = [Demo.approved, Demo.stageSettled, Demo.submitted]
  ∧ (∀ k, slice (k * 2) = [] ↔ 2 ≤ k)
  ∧ ((List.range 2).flatMap fun k => slice (k * 2)) = whole
  ∧ Inserts Demo.lateNote whole
      ((World.answer (.record Demo.lateNote) Demo.settled).2.told ⟨"app-1"⟩ {})
  := by
  intro whole slice
  have hwhole : whole = [Demo.approved, Demo.stageSettled, Demo.submitted] := Demo.told_settled
  have hlength : whole.length = 3 := congrArg List.length hwhole
  obtain ⟨-, -, ⟨count, hempty, hall⟩, -, hrecord⟩ :=
    timeline_pages_complete Demo.settled ⟨"app-1"⟩ [] (show 0 < 2 by decide)
  have hmost : count ≤ 2 := by
    apply (hempty 2).mp
    apply World.told_beyond
    change whole.length ≤ 2 * 2
    omega
  have hleast : ¬ count ≤ 1 := by
    intro hone
    have hnone : (whole.drop 2).take 2 = [] := (hempty 1).mpr hone
    rw [List.take_eq_nil_iff, List.drop_eq_nil_iff] at hnone
    omega
  obtain rfl : count = 2 := by omega
  exact ⟨by decide, hwhole, hempty, hall 2 (Nat.le_refl 2), (hrecord Demo.lateNote).1 (by decide)⟩

end Rehoming
