import Rehoming.Demo.Script
import Rehoming.Proofs.Service.Course
import Rehoming.Proofs.Sharing.Effect
/-!
# Clients that run requests

Whatever clients ask of the service, and whoever they are, what they write follows one rule:
they add what a submission makes, and they replace a record by what an amendment makes of it.
-/

namespace Rehoming

/-- The rule of all clients, whoever they are and whatever the directory says. -/
def Rule.ofAnyone (policy : Policy) : Rule :=
  .ofActors (fun _ => True) policy fun _ => True

section Rule

variable {policy : Policy} {now : Time.Instant} {a before : Application}

/-- What is added is made by a submission. -/
theorem Rule.ofAnyone_insert (h : (ofAnyone policy).insert now a) :
  ∃ (s : Submission) (id : ApplicationId) (user : UserId) (pet : PetId) (rescue : RescueId),
    a = s.application id user pet rescue now policy.ttlDays
  := by
  obtain ⟨actor, -, ⟨s, name, pet, -, -, -, -⟩⟩ := h
  use s, ⟨name⟩, actor.userId, pet.petId, pet.rescueId

/-- What takes the place of a record is made of it by an amendment. -/
theorem Rule.ofAnyone_update (h : (ofAnyone policy).update now before a) :
  ∃ user draft, Course user now before draft ∧ a = draft.stamp now policy.ttlDays
  := by
  obtain ⟨actor, draft, -, hamends, rfl⟩ := h
  exact ⟨actor.userId, draft, hamends.course, rfl⟩

end Rule

/-- What is left of a request: of a mutation, the rest of a transaction. -/
def Request.Continues (policy : Policy) :
    (r : Request) → Program (Except Refusal r.Reply) → Sight → Prop
  | .mutation m, p, σ =>
    (∃ head, p.Transacts (Rule.ofAnyone policy) (fun stored => m.reply stored) head σ)
    ∨ ∃ stored, p.Concludes (.ok (m.reply stored))
  | _, _, _ => True

namespace Request

variable {policy : Policy} {r : Request} {m : Mutation} {σ : Sight} {call : Call}
  {next : call.Answer → Program (Except Refusal r.Reply)}

theorem continues_start (policy : Policy) (r : Request) :
  r.Continues policy (r.service policy).run {}
  := by
  cases r with
  | mutation m =>
    left
    use (m.service policy).run
    apply m.transacts
    intro actor' _
    trivial
  | _ => trivial

theorem Continues.answer (h : r.Continues policy (.ask call next) σ) (w : Rehoming.World) :
  r.Continues policy (next (World.answer call w).1) (σ.after call (World.answer call w).1)
  := by
  cases r with
  | mutation m =>
    obtain ⟨head, htransacts⟩ | ⟨stored, hconcludes⟩ := h
    · apply htransacts.answer (w := w) trivial
    · right
      use stored
      cases hconcludes with
      | ask hcall hnext => apply hnext
  | _ => trivial

/-- Who is about to insert a record has found no active application before, and is refused if
the insertion fails. -/
theorem Continues.insert {a : Application} {p : Program (Except Refusal r.Reply)}
    {next : (Call.insert a).Answer → Program (Except Refusal r.Reply)}
    (h : r.Continues policy p σ) (hr : r = .mutation m) (hp : p = .ask (.insert a) next) :
  a.isActive = true ∧ σ.active = some (a.userId, a.petId, none)
    ∧ ∀ e, next (.error e) = .done (.error (insertRefusal a e))
  := by
  subst hr hp
  obtain ⟨head, htransacts⟩ | ⟨stored, hconcludes⟩ := h
  · cases htransacts with
    | read hpermits => cases hpermits
    | insert hfound hactive active hclock hrule hok herror => exact ⟨active, hactive, herror⟩
  · cases hconcludes with
    | ask hcall => cases hcall

end Request

namespace System

variable {ι : Type} {policy : Policy} {requests : ι → Request}
  {s : System fun i => (requests i).Reply}

/-- That every client is somewhere in its request. -/
def Continues (policy : Policy) (requests : ι → Request)
    (s : System fun i => (requests i).Reply) : Prop :=
  ∀ i, (requests i).Continues policy (s.clients i).program (s.clients i).sight

theorem Continues.turn [DecidableEq ι] (h : Continues policy requests s) (t : Turn ι) :
  Continues policy requests (s.turn t)
  := by
  apply turn_induction h
  intro call next hprogram i
  by_cases hi : i = t.client
  · subst hi
    rw [answer_clients_self]
    apply Request.Continues.answer
    rw [← hprogram]
    apply h
  · rw [answer_clients_of_ne hi]
    apply h

/-- The invariant of clients that run requests: none has found anything out of date, each
goes on writing by the rule, and each is somewhere in its request. -/
structure Orderly (policy : Policy) (requests : ι → Request)
    (s : System fun i => (requests i).Reply) : Prop where
  sound : s.Sound
  obeys : s.Obeys (Rule.ofAnyone policy)
  continues : Continues policy requests s

/-- Clients that ask for something of the service in a world. -/
def ofRequests (policy : Policy) (requests : ι → Request) (w : Rehoming.World) :
    System fun i => (requests i).Reply :=
  start w fun i => (requests i).service policy

theorem orderly_start (w : Rehoming.World) :
  Orderly policy requests (ofRequests policy requests w)
  := by
  constructor
  case sound => apply sound_start
  case obeys =>
    intro i
    apply Service.obeys_any_iff.mp ((requests i).obeys policy)
  case continues =>
    intro i
    apply Request.continues_start

theorem Orderly.move [DecidableEq ι] (h : Orderly policy requests s) (m : Move ι) :
  Orderly policy requests (s.move m)
  := by
  constructor
  case sound => apply h.sound.move
  case obeys =>
    cases m with
    | refit directory questions => exact h.obeys
    | turn t => apply h.obeys.turn trivial
  case continues =>
    cases m with
    | refit directory questions => exact h.continues
    | turn t => apply h.continues.turn

theorem orderly_run [DecidableEq ι] (w : Rehoming.World) (moves : List (Move ι)) :
  Orderly policy requests ((ofRequests policy requests w).run moves)
  := by
  apply run_induction _ (orderly_start w)
  intro m _ s hs
  apply hs.move

section Stored

variable [DecidableEq ι] {P : Application → Prop}
  (hsubmitted : ∀ (s : Submission) id user pet rescue now,
    P (s.application id user pet rescue now policy.ttlDays))
  (hamended : ∀ user now before draft, Course user now before draft → P before →
    P { draft.stamp now policy.ttlDays with version := before.version + 1 })

include hsubmitted hamended

/-- A move leaves all stored applications with a property of new applications that every
amendment of one leaves. -/
theorem Orderly.stored_move (h : Orderly policy requests s) (hstored : ∀ a ∈ s.world.records, P a)
    (m : Move ι) :
  ∀ a ∈ (s.move m).world.records, P a
  := by
  cases m with
  | refit directory questions => exact hstored
  | turn t =>
    apply stored_turn (h.obeys t.client) h.sound _ _ hstored
    · intro now a hrule
      obtain ⟨submission, id, user, pet, rescue, rfl⟩ := Rule.ofAnyone_insert hrule
      apply hsubmitted
    · intro now before a hrule hbefore
      obtain ⟨user, draft, hcourse, rfl⟩ := Rule.ofAnyone_update hrule
      exact hamended user now before draft hcourse hbefore

/-- A property of new applications that every amendment of one leaves is one of all
applications that clients have stored. -/
theorem stored_induction (w : Rehoming.World) (moves : List (Move ι)) :
  ∀ a ∈ ((ofRequests policy requests { w with records := [] }).run moves).world.records, P a
  := by
  have hrun : Orderly policy requests ((ofRequests policy requests { w with records := [] }).run moves)
      ∧ ∀ a ∈ ((ofRequests policy requests { w with records := [] }).run moves).world.records, P a := by
    apply run_induction (P := fun s => Orderly policy requests s ∧ ∀ a ∈ s.world.records, P a)
    · rintro m - s ⟨horderly, hstored⟩
      exact ⟨horderly.move m, horderly.stored_move hsubmitted hamended hstored m⟩
    · use orderly_start _
      rintro a ⟨⟩
  exact hrun.2

end Stored

end System

/-! ### A small run -/

namespace Demo

/-- There are three clients in the runs below and in those of other modules, numbered from zero. -/
instance instNeZeroThree : @NeZero Nat Zero.ofOfNat0 3 :=
  ⟨by decide⟩

/-- The adopter applies for a pet, the administrator approves the application, and the adopter
attaches a document to it. -/
def adoption : Fin 3 → Request
  | 0 => .mutation (.submit (submission rufus) adopter)
  | 1 => .mutation (.decide ⟨"app-1"⟩ ⟨.approved, none, none, none⟩ admin)
  | 2 => .mutation (.attach ⟨"app-1"⟩ ⟨"id", "id.pdf", "files/id.pdf"⟩ adopter)

/-- Some turns of a client, one a second from a second on. -/
def turns (client : Fin 3) (count start : Nat) : List (Move (Fin 3)) :=
  (List.range count).map fun k => .turn ⟨client, .ofSeconds (start + k) 0, .numbered⟩

/-- The world with no form to fill in. -/
def informalWorld : World :=
  { world .numbered ⟨0⟩ with questions := [] }

/-- The world in which the adopter has applied for a pet. -/
def applied : World :=
  (informalWorld.perform (Service.submit policy (submission rufus) adopter)).2

/-- The world in which the other adopter has applied for another pet as well. -/
def bothApplied : World :=
  (applied.perform (Service.submit policy (submission willow) secondAdopter)).2

/-- The three clients before they do anything, with an empty store. -/
def start : System fun i => (adoption i).Reply :=
  .ofRequests policy adoption { informalWorld with records := [] }

/-- The turns until the approval. -/
def approval : List (Move (Fin 3)) :=
  turns 0 11 0 ++ turns 1 9 20

/-- The turns after it. -/
def upload : List (Move (Fin 3)) :=
  turns 2 9 30

end Demo

end Rehoming
