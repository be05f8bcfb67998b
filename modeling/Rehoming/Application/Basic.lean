import Rehoming.Answer.Basic
import Rehoming.Application.Status
import Rehoming.Collection.TextSet
import Rehoming.Document
import Rehoming.Ids
import Rehoming.Reference.Basic
/-!
# Applications

The record of an adoption application, with its references and documents, and the changes
that its life cycle makes to it.
-/

namespace Rehoming

/-- An adoption application. -/
structure Application where
  applicationId : ApplicationId
  userId : UserId
  petId : PetId
  rescueId : RescueId
  status : Status
  priority : Priority
  stage : Stage
  answers : Answers
  references : List Reference
  documents : List Document
  notes : Option String
  interviewNotes : Option String
  homeVisitNotes : Option String
  rejectionReason : Option String
  score : Option Nat
  tags : TextSet
  createdAt : Time.Instant
  updatedAt : Time.Instant
  /-- The number of times the store has written the record since it was inserted.  It has no
  bound here; where versions are words of 64 bits, fewer than 2 ^ 64 writes are assumed. -/
  version : Nat
  submittedAt : Option Time.Instant
  decisionAt : Option Time.Instant
  actionedBy : Option UserId
  actionedAt : Option Time.Instant
  expiresAt : Option Time.Instant
  followUpDate : Option Time.Instant
  deletedAt : Option Time.Instant

/-- A change of status that is not allowed. -/
structure TransitionRefused where
  origin : Status
  target : Status
  deriving DecidableEq, Repr

namespace TransitionRefused

/-- The words for the caller. -/
def message (r : TransitionRefused) : String :=
  "cannot change status from \"" ++ r.origin.label ++ "\" to \"" ++ r.target.label ++ "\""

end TransitionRefused

namespace Application

/-- Whether the application has been deleted by its owner. -/
def isDeleted (a : Application) : Bool :=
  a.deletedAt.isSome

/-- Whether the application keeps its owner from applying for the same pet once more. -/
def isActive (a : Application) : Bool :=
  !a.status.releasesPair && !a.isDeleted

/-- Whether the application still waits for a decision. -/
def isInProgress (a : Application) : Bool :=
  a.status == .submitted

/-- Whether the staff has work to do on the application. -/
def requiresAction (a : Application) : Bool :=
  a.status == .submitted

/-- How far the application has come, as a percentage. -/
def completionPercentage (a : Application) : Nat :=
  if a.status.isFinal then 100 else 25

/-- Whether a user is the applicant. -/
def isOwnedBy (a : Application) (user : UserId) : Bool :=
  a.userId == user

/-- The application after someone has moved it to another status. -/
def transition (a : Application) (target : Status) (actor : UserId) (now : Time.Instant) :
    Except TransitionRefused Application :=
  if a.status.canBecome target then
    .ok { a with
      status := target
      actionedBy := some actor
      actionedAt := some now
      decisionAt := if target = .approved ∨ target = .rejected then some now else a.decisionAt }
  else .error ⟨a.status, target⟩

/-- The application with the timestamps that every write leaves behind.  A submitted one
gets the times of its submission and of its expiry, a decided one that of its decision,
unless they are known already. -/
def stamp (a : Application) (now : Time.Instant) (ttlDays : Nat) : Application :=
  { a with
    submittedAt := if a.status = .submitted then a.submittedAt.or (some now) else a.submittedAt
    decisionAt := if a.status.isFinal then a.decisionAt.or (some now) else a.decisionAt
    expiresAt := if a.status = .submitted then a.expiresAt.or (now.addDays? ttlDays) else a.expiresAt
    updatedAt := now }

/-- Notes with some more behind them. -/
def joinNotes (notes : Option String) (addition : String) : String :=
  match notes with
  | none => addition
  | some old => if old = "" then addition else old ++ "\n\n" ++ addition

/-- The application with something added to its notes. -/
def appendNotes (a : Application) (addition : String) : Application :=
  { a with notes := some (joinNotes a.notes addition) }

/-- The application with an addition to its notes, if one is given and it is not blank. -/
def appendIfAny (a : Application) (addition : Option String) : Application :=
  match Text.nonBlank addition with
  | none => a
  | some notes => a.appendNotes notes

/-- A move of the stage that a status has caused. -/
structure StageMove where
  previous : Stage
  new : Stage
  deriving DecidableEq, Repr

/-- The move of the stage to where the status settles it. -/
def stageMove (a : Application) : Option StageMove :=
  match Stage.settledBy a.status with
  | none => none
  | some target => if a.stage = target then none else some ⟨a.stage, target⟩

/-- The application with its stage where the status settles it. -/
def settleStage (a : Application) : Application :=
  match a.stageMove with
  | none => a
  | some move => { a with stage := move.new }

end Application

end Rehoming
