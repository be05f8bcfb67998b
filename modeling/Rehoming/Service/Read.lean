import Rehoming.Service.Commit
import Rehoming.Statistics
import Rehoming.Timeline.Activity
/-!
# Reading

What actors may see: an application, the matches of a search, the timeline of an application
and its numbers, and the numbers of a rescue.  Searches and statistics are narrowed to what
the actor may see before the store is asked.
-/

namespace Rehoming

namespace Service

/-- The application of a name, if there is one.  Only administrators see deleted ones. -/
def read (id : ApplicationId) (actor : Actor) (includeDeleted : Bool) :
    Service (Option Application) := do
  let actor ← resolve actor
  match ← stored (← ask (.fetch id (includeDeleted && actor.role == .admin))) with
  | none => return none
  | some a => do
    requireAccess actor .view a
    return some a

/-- The filters of a search, narrowed to what the actor may see: adopters see their own
applications, the staff those of one rescue, and only administrators deleted ones. -/
def narrowed (actor : Actor) (f : Filters) : Filters :=
  let f := match actor.role with
    | .adopter => { f with userId := some actor.userId }
    | .rescueStaff => { f with rescueId := f.rescueId.or actor.rescueId }
    | .admin => f
  if actor.role = .admin then f else { f with includeDeleted := false }

/-- The text to look for, with the users and pets it is found in. -/
def textSearch (s : Option String) : Service (Option TextSearch) := do
  match Text.nonBlank s with
  | none => return none
  | some s =>
    let needle := TextSearch.needleOf s
    let users ← stored (← ask (.matchingUsers needle))
    let pets ← stored (← ask (.matchingPets needle))
    return some ⟨needle, users, pets⟩

/-- A page of the applications that match. -/
def search (policy : Policy) (filters : Filters) (options : SearchOptions) (actor : Actor) :
    Service SearchResult := do
  let actor ← resolve actor
  let filters := narrowed actor filters
  requireScope actor .search filters.rescueId
  let text ← textSearch filters.search
  let criteria := { Criteria.of filters options policy.defaultPageSize policy.maxPageSize with text }
  let page ← stored (← ask (.search criteria))
  return ⟨page.applications, .of criteria.page criteria.limit page.total, filters⟩

/-- Goes on only if the actor may see an application. -/
def requireVisible (id : ApplicationId) (actor : Actor) : Service Unit := do
  let found ← stored (← ask (.fetch id (actor.role == .admin)))
  let a ← present (.applicationNotFound id) found
  requireAccess actor .view a

/-- The timeline of an application. -/
def timeline (id : ApplicationId) (query : TimelineQuery) (actor : Actor) :
    Service (List TimelineEvent) := do
  let actor ← resolve actor
  requireVisible id actor
  kept (← ask (.eventsFor id query))

/-- The timeline of an application in numbers. -/
def timelineStats (id : ApplicationId) (actor : Actor) : Service TimelineStats := do
  let actor ← resolve actor
  requireVisible id actor
  let events ← kept (← ask (.eventsFor id {}))
  return TimelineStats.of events

/-- Goes on only if the actor may see each of some applications, those that are missing or
deleted not counted. -/
def requireEachVisible (actor : Actor) : List ApplicationId → Service Unit
  | [] => pure ()
  | id :: rest => do
    match ← stored (← ask (.fetch id false)) with
    | some a => requireAccess actor .view a
    | none => pure ()
    requireEachVisible actor rest

/-- A summary of the timeline of each of some applications. -/
def activity (ids : List ApplicationId) (actor : Actor) :
    Service (List (ApplicationId × ActivitySummary)) := do
  let actor ← resolve actor
  requireEachVisible actor ids
  let events ← kept (← ask (.eventsForMany ids))
  return ActivitySummary.ofMany ids events

/-- The rescue whose numbers an actor gets who asks for those of `rescue`. -/
def statisticsScope (actor : Actor) (rescue : Option RescueId) : Option RescueId :=
  if actor.role = .rescueStaff then rescue.or actor.rescueId else rescue

/-- The applications of a rescue, or of all rescues, in numbers. -/
def statistics (rescue : Option RescueId) (actor : Actor) : Service Statistics := do
  let actor ← resolve actor
  let scope := statisticsScope actor rescue
  requireScope actor .viewStatistics scope
  let apps ← stored (← ask (.listForRescue scope))
  return Statistics.of scope apps

end Service

end Rehoming
