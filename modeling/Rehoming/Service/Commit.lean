import Rehoming.Policy
import Rehoming.Question.Report
import Rehoming.Service.Program
/-!
# Commits

How an operation changes a stored application: it reads the record, makes its change, and
writes the record back if nobody else has written it in between.  If somebody has, it starts
over with the record as it is then, as often as the policy allows, so that changes of several
writers are laid over one another and none is lost.
-/

namespace Rehoming

namespace Service

/-- An actor of the staff who does not tell a rescue gets the one the directory knows. -/
def resolve (actor : Actor) : Service Actor := do
  if actor.role = .rescueStaff ∧ actor.rescueId = none then
    let rescue ← stored (← ask (.findStaffRescue actor.userId))
    return { actor with rescueId := rescue }
  else
    return actor

/-- Goes on only if an actor may do something with an application. -/
def requireAccess (actor : Actor) (operation : Operation) (a : Application) : Service Unit :=
  require (actor.mayDo operation a) (.accessDenied operation (.application a.applicationId))

/-- Goes on only if an actor may do something for a rescue, or for all of them. -/
def requireScope (actor : Actor) (operation : Operation) (rescue : Option RescueId) : Service Unit :=
  require (actor.mayDoFor operation rescue) (.accessDenied operation (.ofRescue rescue))

/-- Goes on only if an application still waits for a decision. -/
def requireSubmitted (a : Application) : Service Unit :=
  require (a.status == .submitted) (.alreadyProcessed a.status)

/-- The report on answers to the form of a rescue. -/
def reportOn (rescue : RescueId) (answers : Answers) : Service AnswerReport := do
  let questions ← stored (← ask (.questionsForRescue rescue))
  return AnswerReport.of questions answers

/-- Goes on only if answers fit the form of a rescue. -/
def requireAnswers (rescue : RescueId) (answers : Answers) : Service Unit := do
  let report ← reportOn rescue answers
  requireNone report.errors .answersRefused

/-- A change of a stored application: the record before, the record after, and what the
change tells of itself. -/
structure Committed (α : Type) where
  before : Application
  after : Application
  outcome : α

/-- A change of a record at a time. -/
abbrev Change (α : Type) := Application → Time.Instant → Service (Application × α)

/-- Why a write is refused that has not come too late. -/
def writeRefusal (id : ApplicationId) : StoreError → Refusal
  | .notFound => .applicationNotFound id
  | e => .store e

/-- Reads a record, changes it and writes it back.  If the write comes too late, goes on with
`late`, which is told the version expected and the version stored. -/
def attempt {α : Type} (policy : Policy) (id : ApplicationId) (change : Change α)
    (late : Nat → Nat → Service (Committed α)) : Service (Committed α) := do
  let found ← stored (← ask (.fetch id false))
  let before ← present (.applicationNotFound id) found
  let now ← ask .now
  let (draft, outcome) ← change before now
  match ← ask (.update (draft.stamp now policy.ttlDays) before.version) with
  | .ok after => return { before, after, outcome }
  | .error (.staleWrite expected current) => late expected current
  | .error e => throw (writeRefusal id e)

/-- Reads a record, changes it and writes it back, and starts over if the write comes too
late, at most a number of times. -/
def commit {α : Type} (policy : Policy) (id : ApplicationId) (change : Change α) :
    (retries : Nat) → Service (Committed α)
  | 0 => attempt policy id change fun expected current => throw (.store (.staleWrite expected current))
  | left + 1 => attempt policy id change fun _ _ => commit policy id change left

/-- Puts an event into the timeline; if that fails, the operation goes on all the same. -/
def record (event : String → TimelineEvent) : Service Unit := do
  let id ← ask (.fresh .event)
  let _ ← ask (.record (event id))

/-- Puts an entry into the audit log; if that fails, the operation goes on all the same. -/
def log (entry : String → AuditEntry) : Service Unit := do
  let id ← ask (.fresh .entry)
  let _ ← ask (.log (entry id))

end Service

end Rehoming
