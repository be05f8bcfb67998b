import Rehoming.Service.Decide
import Rehoming.Wire.Request
/-!
# Batches

One patch for many applications, one after the other.  Each application is changed or
refused on its own, and the answer tells which were which, in the order of the request.
-/

namespace Rehoming

/-- An application that a batch could not change. -/
structure BatchFailure where
  applicationId : ApplicationId
  refusal : Refusal
  deriving DecidableEq, Repr

/-- The answer to a batch. -/
structure BatchResult where
  successes : List ApplicationId
  failures : List BatchFailure
  deriving DecidableEq, Repr

namespace Service

/-- The change that a patch makes. -/
def patchChange (p : Patch) (actor : Actor) : Change (Option Application.StageMove) := fun a now => do
  requireAccess actor .bulkUpdate a
  allowed (p.applyTo a actor.userId now)

/-- The audit entry of a patch. -/
def patchedEntry (p : Patch) (done : Moved) (actor : UserId) (id : String) : AuditEntry :=
  .aboutApplication id .bulkUpdate done.after.applicationId actor
    (.obj
      [("updates", p.toJson), ("previous_status", done.before.status.toJson),
       ("previous_priority", done.before.priority.toJson)])
    done.after.updatedAt

/-- Changes one application of a batch. -/
def patchOne (policy : Policy) (id : ApplicationId) (p : Patch) (actor : Actor) :
    Service Application := do
  let done ← commit policy id (patchChange p actor) policy.transitionRetries
  if done.before.status != done.after.status then
    recordMove done actor.userId none p.notes
  log (patchedEntry p done actor.userId)
  return done.after

/-- Changes the applications of a batch, one after the other. -/
def patchEach (policy : Policy) (p : Patch) (actor : Actor) : List ApplicationId → Program BatchResult
  | [] => .done ⟨[], []⟩
  | id :: rest => do
    let outcome ← (patchOne policy id p actor).run
    let result ← patchEach policy p actor rest
    match outcome with
    | .ok a => return { result with successes := a.applicationId :: result.successes }
    | .error refusal => return { result with failures := ⟨id, refusal⟩ :: result.failures }

/-- Applies a batch. -/
def applyBatch (policy : Policy) (b : Batch) (actor : Actor) : Service BatchResult := do
  requireNone b.faults .invalidInput
  let actor ← resolve actor
  requireScope actor .bulkUpdate actor.rescueId
  ExceptT.lift (patchEach policy b.updates actor b.applicationIds)

end Service

namespace BatchFailure

/-- A failure as a document. -/
def toJson (f : BatchFailure) : Json :=
  .obj
    [("application_id", f.applicationId.toJson), ("error", .str f.refusal.message),
     ("kind", .str f.refusal.kind.label)]

end BatchFailure

namespace BatchResult

/-- The answer to a batch as a document. -/
def toJson (r : BatchResult) : Json :=
  .obj
    [("success_count", .nat r.successes.length),
     ("failure_count", .nat r.failures.length),
     ("successes", .arr (r.successes.map ApplicationId.toJson)),
     ("failures", .arr (r.failures.map BatchFailure.toJson))]

end BatchResult

end Rehoming
