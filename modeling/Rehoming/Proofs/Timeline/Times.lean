import Rehoming.Proofs.Time.Instant
import Rehoming.Timeline.Event
import Mathlib.Data.List.Induction
/-!
# First and last times

Which time comes out when events are looked at one after the other, and the earlier or the later
of two times is kept: that of one of them, and none of the others comes before it, or behind it.
So the order in which they are looked at makes no difference.
-/

namespace Rehoming

/-- The time that is chosen among an earlier one, if there is any, and those of some events, one
after the other. -/
def TimelineEvent.chosenTime (choose : Time.Instant → Time.Instant → Time.Instant)
    (start : Option Time.Instant) (events : List TimelineEvent) : Option Time.Instant :=
  events.foldl (fun t e => some ((t.map (choose · e.createdAt)).getD e.createdAt)) start

theorem TimelineEvent.chosenTime_concat (choose : Time.Instant → Time.Instant → Time.Instant)
    (start : Option Time.Instant) (earlier : List TimelineEvent) (e : TimelineEvent) :
  chosenTime choose start (earlier ++ [e])
    = some (((chosenTime choose start earlier).map (choose · e.createdAt)).getD e.createdAt)
  := by
  rw [chosenTime, List.foldl_append]
  rfl

/-- A way to choose between times: of any two it chooses one that comes before both. -/
structure Time.Choice (choose : Instant → Instant → Instant) (before : Instant → Instant → Prop) :
    Prop where
  refl : ∀ t, before t t
  trans : ∀ {t t' t''}, before t t' → before t' t'' → before t t''
  antisymm : ∀ {t t'}, before t t' → before t' t → t = t'
  one : ∀ t t', choose t t' = t ∨ choose t t' = t'
  both : ∀ t t', before (choose t t') t ∧ before (choose t t') t'

theorem Time.Instant.choice_min :
  Choice min (· ≤ ·)
  where
    refl := le_refl
    trans := le_trans
    antisymm := le_antisymm
    one t t' := by
      rw [min]
      split
      · exact .inl rfl
      · exact .inr rfl
    both t t' := by
      simp only [min, le_iff]
      split <;> omega

theorem Time.Instant.choice_max :
  Choice max (fun t t' => t' ≤ t)
  where
    refl := le_refl
    trans h h' := le_trans h' h
    antisymm h h' := le_antisymm h' h
    one t t' := by
      rw [max]
      split
      · exact .inr rfl
      · exact .inl rfl
    both t t' := by
      simp only [max, le_iff]
      split <;> omega

variable {events events' : List TimelineEvent} {choose : Time.Instant → Time.Instant → Time.Instant}
  {before : Time.Instant → Time.Instant → Prop} (hchoice : Time.Choice choose before)

include hchoice

/-- The time that is chosen among those of some events, one after the other, is the time of one of
them and comes before those of all. -/
theorem Time.Choice.exists_chosenTime (hevents : events ≠ []) :
  ∃ t, TimelineEvent.chosenTime choose none events = some t
    ∧ (∃ e ∈ events, e.createdAt = t) ∧ ∀ e ∈ events, before t e.createdAt
  := by
  induction events using List.reverseRecOn with
  | nil => exact absurd rfl hevents
  | append_singleton earlier e ih =>
    rw [TimelineEvent.chosenTime_concat]
    by_cases hearlier : earlier = []
    · subst hearlier
      exact ⟨e.createdAt, rfl, ⟨e, by simp, rfl⟩, by simpa using hchoice.refl _⟩
    · obtain ⟨t, ht, ⟨e', he', htime⟩, hall⟩ := ih hearlier
      rw [ht]
      refine ⟨choose t e.createdAt, rfl, ?_, ?_⟩
      · obtain hchosen | hchosen := hchoice.one t e.createdAt
        · exact ⟨e', List.mem_append_left _ he', htime.trans hchosen.symm⟩
        · exact ⟨e, by simp, hchosen.symm⟩
      · intro e'' he''
        obtain he'' | he'' := List.mem_append.mp he''
        · exact hchoice.trans (hchoice.both t e.createdAt).1 (hall e'' he'')
        · obtain rfl := List.mem_singleton.mp he''
          exact (hchoice.both t e''.createdAt).2

/-- It does not matter in which order the events are looked at. -/
theorem Time.Choice.chosenTime_perm (h : events.Perm events') :
  TimelineEvent.chosenTime choose none events = TimelineEvent.chosenTime choose none events'
  := by
  by_cases hevents : events = []
  · subst hevents
    rw [List.nil_perm.mp h]
  · have hevents' : events' ≠ [] := fun hnil => hevents (List.perm_nil.mp (hnil ▸ h))
    obtain ⟨t, ht, ⟨e, he, htime⟩, hall⟩ := hchoice.exists_chosenTime hevents
    obtain ⟨t', ht', ⟨e', he', htime'⟩, hall'⟩ := hchoice.exists_chosenTime hevents'
    rw [ht, ht']
    congr 1
    apply hchoice.antisymm
    · rw [← htime']
      exact hall e' (h.mem_iff.mpr he')
    · rw [← htime]
      exact hall' e (h.mem_iff.mp he)

end Rehoming
