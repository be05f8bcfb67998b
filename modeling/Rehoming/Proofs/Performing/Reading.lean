import Rehoming.Proofs.Performing.Operation
import Rehoming.Proofs.Search.Filters
import Rehoming.Service.Read
/-!
# What reading answers

Reading an application, searching, and asking for the timelines of applications, as they are
answered in a world that nobody disturbs.
-/

namespace Rehoming.World

open Service

variable {w : World}

/-! ### One application -/

/-- Reading answers the application of a name to those who may view it, a deleted one only to
administrators who ask for it. -/
theorem perform_read (id : ApplicationId) (actor : Actor) (includeDeleted : Bool) :
  (w.perform (Service.read id actor includeDeleted)).1
    = match w.records.fetch id (includeDeleted && actor.role == .admin) with
      | none => .ok none
      | some a =>
        if (actor.resolvedIn w.directory).mayDo .view a then .ok (some a)
        else .error (.accessDenied .view (.application a.applicationId))
  := by
  rw [Service.read, perform_resolve_bind, perform_ask_bind, Actor.resolvedIn_role]
  simp only [answer, stored_ok, pure_bind]
  cases w.records.fetch id (includeDeleted && actor.role == .admin) with
  | none => rfl
  | some a =>
    simp only [perform_requireAccess_bind, perform_pure]
    split <;> rfl

/-! ### Timelines -/

theorem perform_requireVisible_bind {β : Type} (id : ApplicationId) (actor : Actor)
    (x : Service β) :
  w.perform (requireVisible id actor >>= fun _ => x)
    = match w.records.fetch id (actor.role == .admin) with
      | none => (.error (.applicationNotFound id), w)
      | some a =>
        if actor.mayDo .view a then w.perform x
        else (.error (.accessDenied .view (.application a.applicationId)), w)
  := by
  simp only [requireVisible, bind_assoc, perform_ask_bind, answer, stored_ok, pure_bind]
  cases w.records.fetch id (actor.role == .admin) with
  | none => rfl
  | some a => rw [present_some, pure_bind, perform_requireAccess_bind]

/-- The timeline of an application is shown to those who may see the application. -/
theorem perform_timeline (id : ApplicationId) (query : TimelineQuery) (actor : Actor) :
  (w.perform (Service.timeline id query actor)).1
    = match w.records.fetch id (actor.role == .admin) with
      | none => .error (.applicationNotFound id)
      | some a =>
        if (actor.resolvedIn w.directory).mayDo .view a then .ok (query.apply (w.eventsOf id))
        else .error (.accessDenied .view (.application a.applicationId))
  := by
  rw [Service.timeline, perform_resolve_bind, perform_requireVisible_bind, Actor.resolvedIn_role]
  cases w.records.fetch id (actor.role == .admin) with
  | none => rfl
  | some a =>
    simp only
    split <;> rfl

/-- The timeline of an application is put into numbers for those who may see the application. -/
theorem perform_timelineStats (id : ApplicationId) (actor : Actor) :
  (w.perform (timelineStats id actor)).1
    = match w.records.fetch id (actor.role == .admin) with
      | none => .error (.applicationNotFound id)
      | some a =>
        if (actor.resolvedIn w.directory).mayDo .view a then
          .ok (.of (({} : TimelineQuery).apply (w.eventsOf id)))
        else .error (.accessDenied .view (.application a.applicationId))
  := by
  rw [timelineStats, perform_resolve_bind, perform_requireVisible_bind, Actor.resolvedIn_role]
  cases w.records.fetch id (actor.role == .admin) with
  | none => rfl
  | some a =>
    simp only
    split <;> rfl

/-- The first of some names whose record is there, is not deleted, and is not for an actor to
view: that record. -/
def firstHidden (w : World) (actor : Actor) (ids : List ApplicationId) : Option Application :=
  ids.findSome? fun id => (w.records.fetch id false).filter fun a => !actor.mayDo .view a

theorem perform_requireEachVisible_bind {β : Type} (actor : Actor) (ids : List ApplicationId)
    (x : Service β) :
  w.perform (requireEachVisible actor ids >>= fun _ => x)
    = match w.firstHidden actor ids with
      | none => w.perform x
      | some a => (.error (.accessDenied .view (.application a.applicationId)), w)
  := by
  induction ids with
  | nil => rfl
  | cons id rest ih =>
    simp only [requireEachVisible, bind_assoc, perform_ask_bind, answer, stored_ok, pure_bind]
    rw [firstHidden, List.findSome?_cons]
    cases w.records.fetch id false with
    | none => exact ih
    | some a =>
      rw [bind_assoc, perform_requireAccess_bind, ih, Option.filter_some]
      cases actor.mayDo .view a with
      | true => rfl
      | false => rfl

/-- The timelines of some applications are summed up for those who may view each that is there
and not deleted. -/
theorem perform_activity (ids : List ApplicationId) (actor : Actor) :
  (w.perform (activity ids actor)).1
    = match w.firstHidden (actor.resolvedIn w.directory) ids with
      | none => .ok (ActivitySummary.ofMany ids (w.eventsOfMany ids))
      | some a => .error (.accessDenied .view (.application a.applicationId))
  := by
  rw [activity, perform_resolve_bind, perform_requireEachVisible_bind]
  cases w.firstHidden (actor.resolvedIn w.directory) ids with
  | none => rfl
  | some a => rfl

/-! ### Searches -/

theorem perform_textSearch_bind {β : Type} (s : Option String) (f : Option TextSearch → Service β) :
  w.perform (textSearch s >>= f) = w.perform (f (w.directory.textSearch s))
  := by
  rw [textSearch, Directory.textSearch]
  cases Text.nonBlank s with
  | none => rfl
  | some s => rfl

/-- A search as it is put to the store in a world. -/
def criteria (w : World) (policy : Policy) (filters : Filters) (options : SearchOptions) : Criteria :=
  { Criteria.of filters options policy.defaultPageSize policy.maxPageSize with
    text := w.directory.textSearch filters.search }

/-- The page that a search shows in a world. -/
def searchPage (w : World) (policy : Policy) (filters : Filters) (options : SearchOptions) :
    SearchResult :=
  let criteria := w.criteria policy filters options
  let page := w.records.search criteria
  ⟨page.applications, .of criteria.page criteria.limit page.total, filters⟩

/-- Who may search gets the page for the filters as they are narrowed for the actor. -/
theorem perform_search (policy : Policy) (filters : Filters) (options : SearchOptions)
    (actor : Actor) :
  (w.perform (search policy filters options actor)).1
    = (let actor := actor.resolvedIn w.directory
      let filters := narrowed actor filters
      if actor.mayDoFor .search filters.rescueId then .ok (w.searchPage policy filters options)
      else .error (.accessDenied .search (.ofRescue filters.rescueId)))
  := by
  simp only [search, perform_resolve_bind, perform_requireScope_bind, perform_textSearch_bind,
    perform_ask_bind, answer, stored_ok, pure_bind, perform_pure]
  split <;> rfl

/-! ### Statistics -/

/-- Who may see the numbers of a rescue gets those of its records that are not deleted. -/
theorem perform_statistics (rescue : Option RescueId) (actor : Actor) :
  (w.perform (statistics rescue actor)).1
    = (let actor := actor.resolvedIn w.directory
      let scope := statisticsScope actor rescue
      if actor.mayDoFor .viewStatistics scope then .ok (.of scope (w.records.ofRescue scope))
      else .error (.accessDenied .viewStatistics (.ofRescue scope)))
  := by
  simp only [statistics, perform_resolve_bind, perform_requireScope_bind, perform_ask_bind, answer,
    stored_ok, pure_bind, perform_pure]
  split <;> rfl

end Rehoming.World
