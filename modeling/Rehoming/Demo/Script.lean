import Rehoming.Demo.Cast
import Rehoming.Number.Shortest
import Rehoming.Question.Registry
import Rehoming.Service.Batch
import Rehoming.Service.Check
import Rehoming.Service.Read
import Rehoming.Service.Submit
import Rehoming.World.Basic
/-!
# The demonstration

A walk through the life of applications in a fresh world: one is submitted and approved, one
withdrawn, one has a reference checked, and some are labelled in a batch.  Each step says what
came of it.  A refusal that is part of the show is told; any other ends the walk, and what has
been said up to then stays said.
-/

namespace Rehoming.Demo

/-- What can be chosen about the walk. -/
structure Options where
  /-- The slot of the reference to check. -/
  referenceId : String := "ref-5"
  showTimeline : Bool := false
  skipBatch : Bool := false
  deriving DecidableEq, Repr

/-- The world of the walk, and the lines said so far, the last one first. -/
structure Stage where
  world : World
  said : List String

/-- A step of the walk. -/
abbrev Step (α : Type) := ExceptT Refusal (StateM Stage) α

/-- Says a line. -/
def say (line : String) : Step Unit :=
  modify fun stage => { stage with said := line :: stage.said }

/-- Says some lines. -/
def sayAll : List String → Step Unit
  | [] => pure ()
  | line :: rest => do
    say line
    sayAll rest

/-- Performs an operation, refused or not. -/
def attempt {α : Type} (s : Service α) : Step (Except Refusal α) :=
  modifyGet fun stage =>
    let (outcome, world) := stage.world.perform s
    (outcome, { stage with world })

/-- Performs an operation that must not be refused. -/
def perform {α : Type} (s : Service α) : Step α := do
  match ← attempt s with
  | .ok a => return a
  | .error refusal => throw refusal

/-- The limits of the walk. -/
def policy : Policy := {}

/-- A text with blanks behind it up to a width. -/
def column (width : Nat) (s : String) : String :=
  s ++ String.ofList (List.replicate (width - s.length) ' ')

/-- The adopter applies for a pet. -/
def applyFor (pet : Pet) : Step Application :=
  perform (Service.submit policy (submission pet) adopter)

/-- A decision of the staff, with a reason or notes. -/
def decide (a : Application) (status : Status) (reason notes : Option String) : Service Application :=
  Service.decideStatus policy a.applicationId ⟨status, reason, notes, none⟩ staff

/-- An application is submitted, and a second one for the same pet refused. -/
def submitTwice : Step Application := do
  let a ← applyFor rufus
  let expiry := (a.expiresAt.map (·.dateText)).getD "never"
  say ("- Submitted " ++ a.applicationId.text ++ " for " ++ a.petId.text ++ " -> status "
    ++ a.status.label ++ " (expires " ++ expiry ++ ")")
  let world := (← get).world
  say ("  Timeline events: " ++ toString world.timeline.length ++ " | audit entries: "
    ++ toString world.audit.length)
  match ← attempt (Service.submit policy (submission rufus) adopter) with
  | .ok twin => say ("  Unexpected duplicate accepted: " ++ twin.applicationId.text)
  | .error refusal =>
    say ("- Second submission refused (" ++ refusal.kind.label ++ "): " ++ refusal.message)
  return a

/-- The staff approves an application, and cannot change its mind. -/
def approve (a : Application) : Step Unit := do
  let approved ← perform (decide a .approved none (some "Home visit went well"))
  say ("- Staff decision: " ++ approved.status.label ++ " (stage " ++ approved.stage.label
    ++ ", actioned by " ++ (approved.actionedBy.map (·.text)).getD "" ++ ")")
  match ← attempt (decide a .rejected (some "second thoughts") none) with
  | .ok _ => pure ()
  | .error refusal => say ("  Reversal refused: " ++ refusal.message)

/-- An application is withdrawn by its owner, and by nobody else. -/
def withdrawOwn : Step Unit := do
  let a ← applyFor willow
  match ← attempt (Service.withdraw policy a.applicationId ⟨none⟩ secondAdopter) with
  | .ok _ => say "  Unexpected withdrawal by another user"
  | .error refusal => say ("- Withdrawal by another user refused: " ++ refusal.message)
  let withdrawn ←
    perform (Service.withdraw policy a.applicationId ⟨some "Moving house next month"⟩ adopter)
  say ("- " ++ withdrawn.applicationId.text ++ " withdrawn by the applicant -> "
    ++ withdrawn.status.label)

/-- The line of a slot. -/
def slotLine (slot : Reference) : String :=
  "  - " ++ slot.id ++ " " ++ column 10 slot.status.label ++ " " ++ slot.name

/-- The staff checks a reference. -/
def checkReference (referenceId : String) : Step Application := do
  let a ← applyFor sprout
  let update : ReferenceUpdate :=
    ⟨some referenceId, none, .verified, some "Confirmed tenancy and pet history", none⟩
  let checked ← perform (Service.checkReference policy a.applicationId update staff)
  say ("- Reference " ++ referenceId ++ " recorded on " ++ checked.applicationId.text ++ " ("
    ++ toString checked.references.length ++ " slots)")
  sayAll (checked.references.map slotLine)
  return a

/-- The patch of the batch. -/
def patch : Patch where
  status := none
  priority := none
  tags := some (.ofList ["panel-review"])
  notes := some "Queued for Thursday panel"

/-- The line of a failure in the batch. -/
def failureLine (f : BatchFailure) : String :=
  "  - " ++ f.applicationId.text ++ " [" ++ f.refusal.kind.label ++ "] " ++ f.refusal.message

/-- The staff labels three applications, one of which does not exist. -/
def labelSome (a : Application) : Step Unit := do
  let b ← applyFor olive
  let ids := [a.applicationId, ⟨"app-does-not-exist"⟩, b.applicationId]
  let result ← perform (Service.applyBatch policy ⟨ids, patch⟩ staff)
  say ("- Bulk update: " ++ toString result.successes.length ++ " succeeded, "
    ++ toString result.failures.length ++ " failed")
  sayAll (result.failures.map failureLine)

/-- The administrator looks at the numbers. -/
def count : Step Unit := do
  let s ← perform (Service.statistics (some rescue) admin)
  say ("- Rescue statistics: " ++ toString s.total ++ " applications | " ++ toString s.pending
    ++ " pending | approval " ++ s.approvalRate.fixed2 ++ "% | withdrawal " ++ s.withdrawalRate.fixed2
    ++ "%")

/-- The line of an event. -/
def eventLine (e : TimelineEvent) : String :=
  "  " ++ e.createdAt.clockText ++ " " ++ column 24 e.eventType.label ++ " "
    ++ e.description.getD e.title

/-- The administrator looks at a timeline. -/
def showTimeline (a : Application) : Step Unit := do
  say ("\nTimeline for " ++ a.applicationId.text)
  let events ← perform (Service.timeline a.applicationId {} admin)
  sayAll (events.map eventLine)

/-- The whole walk. -/
def walk (options : Options) : Step Unit := do
  say ("Adoption workflow demo (" ++ rescue.text ++ ")")
  let first ← submitTwice
  approve first
  withdrawOwn
  let third ← checkReference options.referenceId
  if !options.skipBatch then labelSome third
  count
  if options.showTimeline then showTimeline first

/-- The world in which the walk begins. -/
def world (naming : Naming) (clock : Time.Instant) : World where
  naming
  clock
  directory
  questions := coreQuestions

/-- What came of a walk. -/
structure Outcome where
  /-- Everything that was said, every line with its end. -/
  text : String
  /-- The refusal that ended the walk, if one did. -/
  refusal : Option Refusal

/-- Some lines, the last one first, as a text. -/
def textOf (said : List String) : String :=
  said.foldl (fun text line => line ++ "\n" ++ text) ""

/-- Walks through a fresh world at a time. -/
def run (options : Options) (clock : Time.Instant) : Outcome :=
  let (outcome, stage) := (walk options).run.run ⟨world .numbered clock, []⟩
  { text := textOf stage.said
    refusal := match outcome with
      | .ok () => none
      | .error refusal => some refusal }

end Rehoming.Demo
