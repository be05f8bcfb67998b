import Rehoming.Service.Batch
import Rehoming.Service.Check
import Rehoming.Service.Edit
import Rehoming.Service.Read
import Rehoming.Service.Submit
/-!
# Requests

Everything a client can ask of the service, as data.  A mutation submits an application or
changes a single one; a request is a mutation, a batch, or something that only reads.
-/

namespace Rehoming

/-- A submission, or a change of one application. -/
inductive Mutation where
  | submit (s : Submission) (actor : Actor)
  | edit (id : ApplicationId) (e : Edit) (actor : Actor)
  | decide (id : ApplicationId) (d : Decision) (actor : Actor)
  | withdraw (id : ApplicationId) (w : Withdrawal) (actor : Actor)
  | check (id : ApplicationId) (u : ReferenceUpdate) (actor : Actor)
  | attach (id : ApplicationId) (u : Upload) (actor : Actor)
  | chooseStage (id : ApplicationId) (c : StageChoice) (actor : Actor)
  | delete (id : ApplicationId) (actor : Actor)
  /-- One item of a batch; the actor is the one the batch has resolved. -/
  | patch (id : ApplicationId) (p : Patch) (actor : Actor)

namespace Mutation

/-- Who asks for a mutation. -/
def actor : Mutation → Actor
  | submit _ actor | edit _ _ actor | decide _ _ actor | withdraw _ _ actor | check _ _ actor
  | attach _ _ actor | chooseStage _ _ actor | delete _ actor | patch _ _ actor => actor

/-- The application that a mutation names. -/
def target : Mutation → Option ApplicationId
  | submit .. => none
  | edit id _ _ | decide id _ _ | withdraw id _ _ | check id _ _ | attach id _ _
  | chooseStage id _ _ | delete id _ | patch id _ _ => some id

/-- What a mutation answers: a deletion nothing, every other mutation the record as it is
stored. -/
def Reply : Mutation → Type
  | delete .. => Unit
  | _ => Application

/-- The operation that a mutation asks for. -/
def service (policy : Policy) : (m : Mutation) → Service m.Reply
  | submit s actor => Service.submit policy s actor
  | edit id e actor => Service.edit policy id e actor
  | decide id d actor => Service.decideStatus policy id d actor
  | withdraw id w actor => Service.withdraw policy id w actor
  | check id u actor => Service.checkReference policy id u actor
  | attach id u actor => Service.attach policy id u actor
  | chooseStage id c actor => Service.chooseStage policy id c actor
  | delete id actor => Service.delete policy id actor
  | patch id p actor => Service.patchOne policy id p actor

/-- The answer of a mutation whose write has stored a record. -/
def reply (stored : Application) : (m : Mutation) → m.Reply
  | submit .. => stored
  | edit .. => stored
  | decide .. => stored
  | withdraw .. => stored
  | check .. => stored
  | attach .. => stored
  | chooseStage .. => stored
  | delete .. => ()
  | patch .. => stored

end Mutation

/-- Something that a client asks of the service. -/
inductive Request where
  | mutation (m : Mutation)
  | batch (b : Batch) (actor : Actor)
  | read (id : ApplicationId) (actor : Actor) (includeDeleted : Bool)
  | search (filters : Filters) (options : SearchOptions) (actor : Actor)
  | timeline (id : ApplicationId) (query : TimelineQuery) (actor : Actor)
  | timelineStats (id : ApplicationId) (actor : Actor)
  | activity (ids : List ApplicationId) (actor : Actor)
  | statistics (rescue : Option RescueId) (actor : Actor)
  | report (rescue : RescueId) (answers : Answers)

namespace Request

/-- What a request answers. -/
def Reply : Request → Type
  | mutation m => m.Reply
  | batch .. => BatchResult
  | read .. => Option Application
  | search .. => SearchResult
  | timeline .. => List TimelineEvent
  | timelineStats .. => TimelineStats
  | activity .. => List (ApplicationId × ActivitySummary)
  | statistics .. => Statistics
  | report .. => AnswerReport

/-- The operation that a request asks for. -/
def service (policy : Policy) : (r : Request) → Service r.Reply
  | mutation m => m.service policy
  | batch b actor => Service.applyBatch policy b actor
  | read id actor includeDeleted => Service.read id actor includeDeleted
  | search filters options actor => Service.search policy filters options actor
  | timeline id query actor => Service.timeline id query actor
  | timelineStats id actor => Service.timelineStats id actor
  | activity ids actor => Service.activity ids actor
  | statistics rescue actor => Service.statistics rescue actor
  | report rescue answers => Service.reportOn rescue answers

/-- The applications that a request may change. -/
def targets : Request → List ApplicationId
  | mutation m => m.target.toList
  | batch b _ => b.applicationIds
  | _ => []

/-- Whether an actor asks for something; anybody may ask for a report on answers. -/
def AskedBy (actor : Actor) : Request → Prop
  | mutation m => m.actor = actor
  | batch _ asker | read _ asker _ | search _ _ asker | timeline _ _ asker | timelineStats _ asker
  | activity _ asker | statistics _ asker => asker = actor
  | report .. => True

end Request

end Rehoming
