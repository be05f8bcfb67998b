import Rehoming.Proofs.Service.Program
import Rehoming.Service.Commit
/-!
# Operations that nobody disturbs

What the steps of an operation do when the operation runs alone in a world, one after the
other.
-/

namespace Rehoming

/-- Whom an actor acts as where a directory knows the staff. -/
def Actor.resolvedIn (actor : Actor) (d : Directory) : Actor :=
  if actor.role = .rescueStaff ∧ actor.rescueId = none then
    { actor with rescueId := d.findStaffRescue actor.userId }
  else actor

@[simp]
theorem Actor.resolvedIn_userId (actor : Actor) (d : Directory) :
  (actor.resolvedIn d).userId = actor.userId
  := by
  rw [resolvedIn]
  split <;> rfl

@[simp]
theorem Actor.resolvedIn_role (actor : Actor) (d : Directory) :
  (actor.resolvedIn d).role = actor.role
  := by
  rw [resolvedIn]
  split <;> rfl

namespace World

open Service

variable {α β : Type} {w : World}

@[simp]
theorem perform_pure (a : α) :
  w.perform (pure a) = (.ok a, w)
  := rfl

@[simp]
theorem perform_throw (e : Refusal) :
  w.perform (throw e : Service α) = (.error e, w)
  := rfl

@[simp]
theorem perform_ask_bind (call : Call) (f : call.Answer → Service β) :
  w.perform (ask call >>= f) = (answer call w).2.perform (f (answer call w).1)
  := rfl

@[simp]
theorem perform_lift (p : Program α) :
  w.perform (ExceptT.lift p) = (.ok (p.run answer w).1, (p.run answer w).2)
  := Program.run_bind answer p _ w

@[simp]
theorem perform_require_bind (condition : Bool) (e : Refusal) (x : Service β) :
  w.perform (require condition e >>= fun _ => x) = if condition then w.perform x else (.error e, w)
  := by
  cases condition with
  | true => rfl
  | false => rfl

@[simp]
theorem perform_requireNone_bind (fields : List FieldError) (refusal : List FieldError → Refusal)
    (x : Service β) :
  w.perform (requireNone fields refusal >>= fun _ => x)
    = if fields.isEmpty then w.perform x else (.error (refusal fields), w)
  := perform_require_bind ..

@[simp]
theorem perform_requireAccess_bind (actor : Actor) (operation : Operation) (a : Application)
    (x : Service β) :
  w.perform (requireAccess actor operation a >>= fun _ => x)
    = if actor.mayDo operation a then w.perform x
      else (.error (.accessDenied operation (.application a.applicationId)), w)
  := perform_require_bind ..

@[simp]
theorem perform_requireScope_bind (actor : Actor) (operation : Operation) (rescue : Option RescueId)
    (x : Service β) :
  w.perform (requireScope actor operation rescue >>= fun _ => x)
    = if actor.mayDoFor operation rescue then w.perform x
      else (.error (.accessDenied operation (.ofRescue rescue)), w)
  := perform_require_bind ..

@[simp]
theorem perform_resolve_bind (actor : Actor) (f : Actor → Service β) :
  w.perform (resolve actor >>= f) = w.perform (f (actor.resolvedIn w.directory))
  := by
  rw [resolve, Actor.resolvedIn]
  split <;> rfl

end World

end Rehoming
