import Rehoming.Proofs.Sharing.Requests
/-!
# Decisions are final

Once the status of a stored application is final, whatever clients ask for later only follows
up on it: references and documents, priority, tags and notes may change, and the traces of
the write, but documents are only added, and notes only written behind the old ones.
-/

namespace Rehoming

namespace Application

/-- Whether one record is a follow-up of another one. -/
structure FollowsUp (before after : Application) : Prop where
  same : after = { before with
    references := after.references, documents := after.documents, priority := after.priority,
    tags := after.tags, notes := after.notes, updatedAt := after.updatedAt,
    version := after.version }
  documents : before.documents <+: after.documents
  notes : NotesGrow before.notes after.notes

variable {a b c : Application}

theorem FollowsUp.refl (a : Application) :
  a.FollowsUp a
  := ⟨rfl, List.prefix_rfl, .refl a.notes⟩

theorem FollowsUp.trans (h : a.FollowsUp b) (h' : b.FollowsUp c) :
  a.FollowsUp c
  := by
  constructor
  case same =>
    have hb := h.same
    rw [h'.same, hb]
  case documents => exact h.documents.trans h'.documents
  case notes => exact h.notes.trans h'.notes

theorem FollowsUp.status_eq (h : a.FollowsUp b) :
  b.status = a.status
  := by
  rw [h.same]

/-- A final record has the time of its decision when it is written. -/
theorem stamp_decisionAt_isSome (h : a.status ≠ .submitted) (now : Time.Instant) (ttlDays : Nat) :
  (a.stamp now ttlDays).decisionAt.isSome = true
  := by
  cases hdecision : a.decisionAt with
  | none => simp [stamp_decisionAt_of_none h hdecision]
  | some t => simp [stamp_decisionAt_of_some hdecision]

/-- An amendment of a decided record is a follow-up. -/
theorem followsUp_of_course {user : UserId} {now : Time.Instant} {draft : Application}
    {ttlDays : Nat} (hfinal : a.status ≠ .submitted) (hdecided : a.decisionAt.isSome = true)
    (hcourse : Course user now a draft) (version : Nat) :
  a.FollowsUp { draft.stamp now ttlDays with version }
  := by
  cases hcourse with
  | edit _ _ _ _ _ _ _ _ hwaiting => cases hfinal hwaiting
  | stage _ _ hwaiting => cases hfinal hwaiting
  | settle _ _ _ _ _ _ hwaiting => cases hfinal hwaiting
  | delete hwaiting => cases hfinal hwaiting
  | follow references documents priority notes tags hdocuments hnotes =>
    obtain ⟨t, ht⟩ := Option.isSome_iff_exists.mp hdecided
    constructor
    case same => simp [stamp, hfinal, ht]
    case documents => exact hdocuments
    case notes => exact hnotes

end Application

namespace System

variable {ι : Type} {policy : Policy} {requests : ι → Request}
  {s : System fun i => (requests i).Reply}

/-- The invariant behind finality: every final record has the time of its decision. -/
structure Decided (policy : Policy) (requests : ι → Request)
    (s : System fun i => (requests i).Reply) : Prop where
  orderly : Orderly policy requests s
  decided : ∀ a ∈ s.world.records, a.status ≠ .submitted → a.decisionAt.isSome = true

theorem decided_start {w : Rehoming.World} (hw : w.records = []) :
  Decided policy requests (ofRequests policy requests w)
  := by
  use orderly_start w
  rw [ofRequests, start, hw]
  rintro a ⟨⟩

variable [DecidableEq ι]

theorem Decided.move (h : Decided policy requests s) (m : Move ι) :
  Decided policy requests (s.move m)
  := by
  use h.orderly.move m
  apply h.orderly.stored_move _ _ h.decided m
  · intro submission id user pet rescue now hfinal
    cases hfinal rfl
  · intro user now before draft _ _ hfinal
    have hdraft : draft.status ≠ .submitted := hfinal
    exact Application.stamp_decisionAt_isSome hdraft now policy.ttlDays

/-- A move only follows up on a record that is final. -/
theorem Decided.followsUp_move (h : Decided policy requests s) (m : Move ι) {id : ApplicationId}
    {a : Application} (ha : s.world.records.find? id = some a) (hfinal : a.status ≠ .submitted) :
  ∃ b, (s.move m).world.records.find? id = some b ∧ a.FollowsUp b
  := by
  cases m with
  | refit directory questions => exact ⟨a, ha, .refl a⟩
  | turn t =>
    obtain ⟨b, hb, rfl | ⟨now, c, hrule, rfl⟩⟩ := find?_turn (h.orderly.obeys t.client) h.orderly.sound ha
    · exact ⟨b, hb, .refl b⟩
    · obtain ⟨user, draft, hcourse, rfl⟩ := Rule.ofAnyone_update hrule
      refine ⟨_, hb, ?_⟩
      apply Application.followsUp_of_course hfinal _ hcourse
      exact h.decided a (Records.mem_of_find? ha) hfinal

/-- Once an application that clients have filed in an empty store is final, whatever they ask
for later and in whatever order they take their turns only follows up on it. -/
theorem decisions_final (policy : Policy) (requests : ι → Request) (w : Rehoming.World)
    (moves moves' : List (Move ι)) :
  let s := (ofRequests policy requests { w with records := [] }).run moves
  ∀ id a, s.world.records.find? id = some a → a.status ≠ .submitted →
    ∃ b, (s.run moves').world.records.find? id = some b ∧ a.FollowsUp b
  := by
  intro s id a ha hfinal
  have hs : Decided policy requests s := by
    apply run_induction _ (decided_start rfl)
    intro m _ s hs
    apply hs.move
  have hlater : Decided policy requests (s.run moves')
      ∧ ∃ b, (s.run moves').world.records.find? id = some b ∧ a.FollowsUp b := by
    apply run_induction (P := fun s => Decided policy requests s
      ∧ ∃ b, s.world.records.find? id = some b ∧ a.FollowsUp b) _ ⟨hs, a, ha, .refl a⟩
    rintro m - s ⟨hs, b, hb, hfollows⟩
    use hs.move m
    have hfinal' : b.status ≠ .submitted := by rwa [hfollows.status_eq]
    obtain ⟨c, hc, hfollows'⟩ := hs.followsUp_move m hb hfinal'
    exact ⟨c, hc, hfollows.trans hfollows'⟩
  exact hlater.2

/-- The upload after the approval in the small run follows up on the application. -/
theorem approval_final :
  ∃ a b, (Demo.start.run Demo.approval).world.records.find? ⟨"app-1"⟩ = some a
    ∧ a.status ≠ .submitted
    ∧ ((Demo.start.run Demo.approval).run Demo.upload).world.records.find? ⟨"app-1"⟩ = some b
    ∧ a.FollowsUp b ∧ b.documents.length = 1
  := by
  have hstatus : ((Demo.start.run Demo.approval).world.records.find? ⟨"app-1"⟩).map
      Application.status = some .approved := by decide +kernel
  have hdocuments : (((Demo.start.run Demo.approval).run Demo.upload).world.records.find?
      ⟨"app-1"⟩).map (·.documents.length) = some 1 := by decide +kernel
  obtain ⟨a, ha, happroved⟩ := Option.map_eq_some_iff.mp hstatus
  have hfinal : a.status ≠ .submitted := by
    rw [happroved]
    decide
  obtain ⟨b, hb, hfollows⟩ := decisions_final Demo.policy Demo.adoption Demo.informalWorld
    Demo.approval Demo.upload ⟨"app-1"⟩ a ha hfinal
  have hb' : ((Demo.start.run Demo.approval).run Demo.upload).world.records.find? ⟨"app-1"⟩
      = some b := hb
  rw [hb'] at hdocuments
  exact ⟨a, b, ha, hfinal, hb', hfollows, Option.some.inj hdocuments⟩

end System

end Rehoming
