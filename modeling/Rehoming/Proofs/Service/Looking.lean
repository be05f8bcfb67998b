import Rehoming.Proofs.Service.Discipline
import Rehoming.Proofs.Service.Request
/-!
# Operations that only look

Reading an application, searching, timelines, numbers and reports ask for things and change
nothing: whatever they return, they leave every world as it was.
-/

namespace Rehoming

/-- Whether a call leaves every world as it is. -/
def Call.isLook : Call → Bool
  | .insert _ | .update .. | .record _ | .log _ => false
  | _ => true

theorem Call.answer_snd_of_isLook {call : Call} (h : call.isLook = true) (w : World) :
  (World.answer call w).2 = w
  := by
  cases call with
  | insert | update | record | log => cases h
  | _ => rfl

/-- Looking only. -/
def looking : Discipline where
  allows _ call := call.isLook = true

variable {σ : Sight}

/-- A program that only looks leaves the world as it is. -/
theorem Program.Obeys.run_looking {α : Type} {post : Sight → α → Prop} {p : Program α}
    (h : p.Obeys looking post σ) (w : Rehoming.World) :
  (p.run World.answer w).2 = w
  := by
  induction p generalizing σ with
  | done a => rfl
  | ask call next ih =>
    rw [Program.run_ask, Call.answer_snd_of_isLook h.1]
    apply ih
    apply h.2 w trivial

namespace Service

variable {β : Type} {policy : Policy} {actor : Actor}

theorem resolve_looks {f : Actor → Service β}
    (h : ∀ actor', (f actor').Obeys looking (fun _ _ => True) (fun _ _ => True) σ) :
  (resolve actor >>= f).Obeys looking (fun _ _ => True) (fun _ _ => True) σ
  := by
  rw [obeys_bind]
  apply obeys_resolve
  · rfl
  intro actor' _
  apply h

theorem requireVisible_looks (id : ApplicationId) {ok : Sight → Unit → Prop} (hok : ∀ σ, ok σ ()) :
  (requireVisible id actor).Obeys looking ok (fun _ _ => True) σ
  := by
  simp [requireVisible, looking, Call.isLook, World.answer, hok]

theorem requireEachVisible_looks (ids : List ApplicationId) :
  (requireEachVisible actor ids).Obeys looking (fun _ _ => True) (fun _ _ => True) σ
  := by
  induction ids generalizing σ with
  | nil => trivial
  | cons id rest ih =>
    rw [requireEachVisible, obeys_bind, obeys_ask]
    use rfl
    intro w _
    simp only [World.answer, stored_ok, pure_bind]
    cases w.records.fetch id false with
    | none => apply ih
    | some a =>
      simp only [obeys_bind, obeys_requireAccess, implies_true, and_true]
      intro _
      apply ih

theorem textSearch_looks (s : Option String) :
  (textSearch s).Obeys looking (fun _ _ => True) (fun _ _ => True) σ
  := by
  rw [textSearch]
  cases Text.nonBlank s with
  | none => trivial
  | some s => simp [looking, Call.isLook, World.answer]

theorem read_looks (id : ApplicationId) (includeDeleted : Bool) :
  (read id actor includeDeleted).Obeys looking (fun _ _ => True) (fun _ _ => True) σ
  := by
  apply resolve_looks
  intro actor'
  rw [obeys_bind, obeys_ask]
  use rfl
  intro w _
  simp only [World.answer, stored_ok, pure_bind]
  cases w.records.fetch id (includeDeleted && actor'.role == .admin) with
  | none => trivial
  | some a => simp only [obeys_bind, obeys_requireAccess, obeys_pure, implies_true, and_true]

theorem search_looks (filters : Filters) (options : SearchOptions) :
  (search policy filters options actor).Obeys looking (fun _ _ => True) (fun _ _ => True) σ
  := by
  apply resolve_looks
  intro actor'
  simp only [obeys_bind, obeys_requireScope, implies_true, and_true]
  intro _
  apply Obeys.mono (fun _ hw => hw) (fun _ _ hcall => hcall) _ (fun _ _ h => h) (textSearch_looks _)
  rintro σ text -
  simp [looking, Call.isLook, World.answer]

theorem timeline_looks (id : ApplicationId) (query : TimelineQuery) :
  (timeline id query actor).Obeys looking (fun _ _ => True) (fun _ _ => True) σ
  := by
  apply resolve_looks
  intro actor'
  rw [obeys_bind]
  apply requireVisible_looks
  intro σ
  simp [looking, Call.isLook, World.answer]

theorem timelineStats_looks (id : ApplicationId) :
  (timelineStats id actor).Obeys looking (fun _ _ => True) (fun _ _ => True) σ
  := by
  apply resolve_looks
  intro actor'
  rw [obeys_bind]
  apply requireVisible_looks
  intro σ
  simp [looking, Call.isLook, World.answer]

theorem activity_looks (ids : List ApplicationId) :
  (activity ids actor).Obeys looking (fun _ _ => True) (fun _ _ => True) σ
  := by
  apply resolve_looks
  intro actor'
  rw [obeys_bind]
  apply Obeys.mono (fun _ hw => hw) (fun _ _ hcall => hcall) _ (fun _ _ h => h)
    (requireEachVisible_looks ids)
  rintro σ ⟨⟩ -
  simp [looking, Call.isLook, World.answer]

theorem statistics_looks (rescue : Option RescueId) :
  (statistics rescue actor).Obeys looking (fun _ _ => True) (fun _ _ => True) σ
  := by
  apply resolve_looks
  intro actor'
  simp [looking, Call.isLook, World.answer]

theorem reportOn_looks (rescue : RescueId) (answers : Answers) :
  (reportOn rescue answers).Obeys looking (fun _ _ => True) (fun _ _ => True) σ
  := by
  simp [looking, Call.isLook]

end Service

/-- Whether a request asks for an operation that only looks. -/
def Request.isLook : Request → Bool
  | mutation _ | batch .. => false
  | _ => true

theorem Request.looks {r : Request} (h : r.isLook = true) (policy : Policy) :
  (r.service policy).Obeys looking (fun _ _ => True) (fun _ _ => True) σ
  := by
  cases r with
  | mutation | batch => cases h
  | read id actor includeDeleted => exact Service.read_looks id includeDeleted
  | search filters options actor => exact Service.search_looks filters options
  | timeline id query actor => exact Service.timeline_looks id query
  | timelineStats id actor => exact Service.timelineStats_looks id
  | activity ids actor => exact Service.activity_looks ids
  | statistics rescue actor => exact Service.statistics_looks rescue
  | report rescue answers => exact Service.reportOn_looks rescue answers

/-- A request that only looks leaves the world as it is. -/
theorem Request.perform_snd_of_isLook {r : Request} (h : r.isLook = true) (policy : Policy) (w : World) :
  (w.perform (r.service policy)).2 = w
  := Program.Obeys.run_looking (σ := {}) (Request.looks h policy) w

end Rehoming
