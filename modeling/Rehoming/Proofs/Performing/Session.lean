import Rehoming.Demo.Cast
import Rehoming.Proofs.Performing.Mutation
import Rehoming.Proofs.Service.Looking
/-!
# Requests one after the other

A session serves requests one after the other, each at some time, with some way to find fresh
names, some directory and some questions.  What every mutation preserves every request and
every session preserves.
-/

namespace Rehoming

/-- What may be different whenever the service is asked: the time, the names to come, the
directory and the questions. -/
structure Moment where
  clock : Time.Instant
  naming : Naming
  directory : Directory
  questions : Registry

/-- A request at a moment. -/
structure Occasion where
  moment : Moment
  request : Request

namespace World

variable {policy : Policy} {w : World}

/-- The world at a moment. -/
def atMoment (w : World) (t : Moment) : World :=
  { w with clock := t.clock, naming := t.naming, directory := t.directory, questions := t.questions }

/-- The world after a request. -/
def serve (policy : Policy) (w : World) (o : Occasion) : World :=
  ((w.atMoment o.moment).perform (o.request.service policy)).2

/-- The world after some requests. -/
def serveAll (policy : Policy) (w : World) (occasions : List Occasion) : World :=
  occasions.foldl (serve policy) w

/-- There is an item for every application that a batch names. -/
theorem map_id_performEach {p : Patch} {actor : Actor} {ids : List ApplicationId} :
  (w.performEach policy p actor ids).map BatchItem.id = ids
  := by
  induction ids generalizing w with
  | nil => rfl
  | cons id rest ih =>
    rw [performEach, List.map_cons, ih]

/-- Every item of a batch starts in a world with what every item preserves. -/
theorem performEach_start {P : World → Prop} {p : Patch} {actor : Actor}
    {ids : List ApplicationId} (h : P w)
    (hstep : ∀ id w, P w → P (w.perform (Service.patchOne policy id p actor)).2) :
  ∀ item ∈ w.performEach policy p actor ids, P item.start
  := by
  induction ids generalizing w with
  | nil =>
    intro item hitem
    cases hitem
  | cons id rest ih =>
    intro item hitem
    rw [performEach] at hitem
    obtain rfl | hitem := List.mem_cons.mp hitem
    · exact h
    · apply ih (hstep id w h) item hitem

end World

/-- What every mutation preserves every request preserves. -/
theorem Request.perform_induction {P : World → Prop} {policy : Policy}
    (hstep : ∀ (m : Mutation) w, P w → P (w.perform (m.service policy)).2) (r : Request) {w : World}
    (h : P w) :
  P (w.perform (r.service policy)).2
  := by
  cases r with
  | mutation m => exact hstep m w h
  | batch b actor =>
    obtain ⟨e, hrefused⟩ | ⟨items, rfl, hitems⟩ := Service.perform_applyBatch policy b actor w
    · change w.perform (service policy (.batch b actor)) = (.error e, w) at hrefused
      rw [hrefused]
      exact h
    · change w.perform (service policy (.batch b actor)) = _ at hitems
      rw [hitems]
      apply World.performEach_induction h
      intro id _ w' h'
      exact hstep (.patch id b.updates (actor.resolvedIn w.directory)) w' h'
  | _ =>
    rw [perform_snd_of_isLook rfl]
    exact h

/-- What every mutation preserves at every moment a session preserves. -/
theorem World.serveAll_induction {P : World → Prop} {policy : Policy}
    (hmoment : ∀ w t, P w → P (w.atMoment t))
    (hstep : ∀ (m : Mutation) w, P w → P (w.perform (m.service policy)).2)
    (occasions : List Occasion) {w : World} (h : P w) :
  P (w.serveAll policy occasions)
  := by
  induction occasions generalizing w with
  | nil => exact h
  | cons o rest ih =>
    apply ih
    apply o.request.perform_induction hstep
    exact hmoment w o.moment h

/-- A moment of the demonstration, in which nothing has to be filled in. -/
def Demo.moment (second : Nat) : Moment :=
  ⟨.ofSeconds second 0, .numbered, directory, []⟩

end Rehoming
