import Rehoming.Proofs.Collection.Counting
import Rehoming.Proofs.Performing.Reading
import Rehoming.Proofs.Search.Pages
import Rehoming.Proofs.Sharing.Requests
/-!
# Statistics count what searches find

Two ways lead to the number of applications of a status or of a priority: the statistics of a
rescue, and the total of a search for them in that rescue.  They are open to the same staff and
give the same number, and the numbers of all rescues together are the sums of those of each.
-/

namespace Rehoming

/-! ### Numbers of some applications -/

namespace Statistics

variable {scope : Option RescueId} {apps apps' : List Application}

/-- How many applications of a status are counted. -/
def ofStatus (s : Statistics) (status : Status) : Option Nat :=
  s.byStatus.lookup status

/-- How many applications of a priority are counted. -/
def ofPriority (s : Statistics) (priority : Priority) : Option Nat :=
  s.byPriority.lookup priority

theorem ofStatus_of (status : Status) :
  (of scope apps).ofStatus status = some (countStatus apps status)
  := by
  apply List.lookup_graph
  cases status <;> decide

theorem ofPriority_of (priority : Priority) :
  (of scope apps).ofPriority priority = some (countPriority apps priority)
  := by
  apply List.lookup_graph
  cases priority <;> decide

/-- One status that is asked for, and any priority. -/
theorem countP_status (status : Status) :
  (apps.countP fun a => Filters.admits (some (.one status)) (OneOrMany.contains · a.status)
      && Filters.admits none (OneOrMany.contains · a.priority))
    = countStatus apps status
  := by
  apply List.countP_congr
  intro a _
  simp only [Filters.admits, OneOrMany.contains, Bool.and_true, beq_iff_eq]
  exact eq_comm

/-- One priority that is asked for, and any status. -/
theorem countP_priority (priority : Priority) :
  (apps.countP fun a => Filters.admits none (OneOrMany.contains · a.status)
      && Filters.admits (some (.one priority)) (OneOrMany.contains · a.priority))
    = countPriority apps priority
  := by
  apply List.countP_congr
  intro a _
  simp only [Filters.admits, OneOrMany.contains, Bool.true_and, beq_iff_eq]
  exact eq_comm

theorem sum_byStatus_of :
  ((of scope apps).byStatus.map Prod.snd).sum = apps.length
  := by
  change ((Status.all.map fun s => (s, countStatus apps s)).map Prod.snd).sum = _
  rw [List.map_map]
  apply sum_countP_key_eq_length Application.status (by decide)
  intro a _
  cases a.status <;> decide

theorem sum_byPriority_of :
  ((of scope apps).byPriority.map Prod.snd).sum = apps.length
  := by
  change ((Priority.all.map fun p => (p, countPriority apps p)).map Prod.snd).sum = _
  rw [List.map_map]
  apply sum_countP_key_eq_length Application.priority (by decide)
  intro a _
  cases a.priority <;> decide

/-- The order of the applications does not matter. -/
theorem of_perm (h : apps.Perm apps') :
  of scope apps = of scope apps'
  := by
  have hstatus : countStatus apps = countStatus apps' := by
    funext s
    exact h.countP_eq _
  have hpriority : countPriority apps = countPriority apps' := by
    funext p
    exact h.countP_eq _
  simp only [of, hstatus, hpriority, h.length_eq]

end Statistics

/-! ### Numbers of the stored applications -/

section Counting

variable {records : Records} {scope : Option RescueId}

/-- What is counted of all rescues together is counted of one of them. -/
theorem Records.sum_countP_ofRescue {rescues : List RescueId} (hrescues : rescues.Nodup)
    (hall : ∀ a ∈ records, a.isDeleted = false → a.rescueId ∈ rescues) (counts : Application → Bool) :
  (records.ofRescue none).countP counts
    = (rescues.map fun rescue => (records.ofRescue (some rescue)).countP counts).sum
  := by
  have hone : ∀ rescue, (records.ofRescue (some rescue)).countP counts
      = ((records.filter fun a => !a.isDeleted && counts a).countP (·.rescueId == rescue)) := by
    intro rescue
    rw [ofRescue, List.countP_filter, List.countP_filter]
    apply List.countP_congr
    intro a _
    simp only [Filters.admits, Bool.and_eq_true, beq_iff_eq]
    tauto
  simp only [hone]
  rw [sum_countP_key_eq_length Application.rescueId hrescues, ofRescue, List.countP_filter,
    ← List.countP_eq_length_filter]
  · apply List.countP_congr
    intro a _
    simp only [Filters.admits, Bool.and_true]
    rw [Bool.and_comm]
  · intro a ha
    obtain ⟨hstored, hcounted⟩ := List.mem_filter.mp ha
    apply hall a hstored
    simp at hcounted
    exact hcounted.1

/-- The numbers of all rescues are the sums of the numbers of each. -/
theorem Statistics.sum_ofRescue {rescues : List RescueId} (hrescues : rescues.Nodup)
    (hall : ∀ a ∈ records, a.isDeleted = false → a.rescueId ∈ rescues) {whole : Statistics}
    {parts : List Statistics} (hwhole : whole = .of none (records.ofRescue none))
    (hparts : parts = rescues.map fun r => .of (some r) (records.ofRescue (some r))) :
  whole.total = (parts.map total).sum
  ∧ whole.pending = (parts.map pending).sum
  ∧ (∀ status, whole.ofStatus status
      = some (parts.map fun part => (part.ofStatus status).getD 0).sum)
  ∧ ∀ priority, whole.ofPriority priority
      = some (parts.map fun part => (part.ofPriority priority).getD 0).sum
  := by
  subst hwhole hparts
  have hsum := Records.sum_countP_ofRescue hrescues hall
  simp only [List.map_map, ofStatus_of, ofPriority_of, Function.comp_def, Option.getD_some,
    Option.some.injEq]
  refine ⟨?_, hsum _, fun status => hsum _, fun priority => hsum _⟩
  have htotal := hsum fun _ => true
  simp only [List.countP_true] at htotal
  exact htotal

/-- A mark that a search asks for, beside a rescue, is counted among the records of the rescue. -/
theorem World.criteria_finds_mark (w : World) (policy : Policy) (options : SearchOptions)
    (status : Option (OneOrMany Status)) (priority : Option (OneOrMany Priority)) (a : Application) :
  (w.criteria policy { rescueId := scope, status, priority } options).finds a
    = ((Filters.admits status (·.contains a.status) && Filters.admits priority (·.contains a.priority))
      && (!a.isDeleted && Filters.admits scope (· == a.rescueId)))
  := by
  have hplain : (w.criteria policy { rescueId := scope, status, priority } options).finds a
      = (!a.isDeleted && Filters.admits status (·.contains a.status)
        && Filters.admits priority (·.contains a.priority)
        && Filters.admits scope (· == a.rescueId)) := by
    simp [World.criteria, Criteria.of, Criteria.finds, Filters.passedBy, Filters.admits,
      Filters.admitsScore, Filters.within, Directory.textSearch, Text.nonBlank]
    cases a.score <;> cases a.submittedAt <;> simp
  rw [hplain]
  ac_rfl

end Counting

/-! ### Numbers that actors get -/

/-- How many applications a search counts for an actor. -/
def World.searchTotal (w : World) (policy : Policy) (filters : Filters) (options : SearchOptions)
    (actor : Actor) : Except Refusal Nat :=
  (w.perform (Service.search policy filters options actor)).1.map fun result => result.pagination.total

section Agreement

variable {policy : Policy} {w : World} {options : SearchOptions} {rescue : Option RescueId}
  {actor : Actor}

/-- Who may see the numbers of a rescue may search in it, and the search is narrowed to that
rescue. -/
theorem Service.narrowed_of_mayDoFor_viewStatistics {f : Filters} (hdeleted : f.includeDeleted = false)
    (h : actor.mayDoFor .viewStatistics (statisticsScope actor f.rescueId) = true) :
  narrowed actor f = { f with rescueId := statisticsScope actor f.rescueId }
  ∧ actor.mayDoFor .search (statisticsScope actor f.rescueId) = true
  := by
  cases hrole : actor.role with
  | adopter => simp [Actor.mayDoFor, hrole] at h
  | admin => simp [narrowed, statisticsScope, Actor.mayDoFor, hrole]
  | rescueStaff =>
    constructor
    · simp [narrowed, statisticsScope, hrole, hdeleted]
    · simpa [Actor.mayDoFor, hrole] using h

/-- Only administrators get the numbers of all rescues. -/
theorem Service.role_of_statisticsScope_eq_none (hscope : statisticsScope actor rescue = none)
    (h : actor.mayDoFor .viewStatistics (statisticsScope actor rescue) = true) :
  actor.role = .admin
  := by
  rw [hscope] at h
  cases hrole : actor.role with
  | admin => rfl
  | adopter => simp [Actor.mayDoFor, hrole] at h
  | rescueStaff =>
    rw [statisticsScope, if_pos hrole, Option.or_eq_none_iff] at hscope
    simp [Actor.mayDoFor, hrole, hscope.2] at h

/-- An administrator gets the numbers of any rescue. -/
theorem World.perform_statistics_of_admin (hrole : actor.role = .admin) (rescue : Option RescueId) :
  (w.perform (Service.statistics rescue actor)).1
    = .ok (.of rescue (w.records.ofRescue rescue))
  := by
  rw [perform_statistics]
  simp [Service.statisticsScope, Actor.mayDoFor, hrole]

theorem World.searchTotal_eq (filters : Filters)
    (h : (actor.resolvedIn w.directory).mayDoFor .search
      (Service.narrowed (actor.resolvedIn w.directory) filters).rescueId = true) :
  w.searchTotal policy filters options actor
    = .ok (w.records.countP
        (w.criteria policy (Service.narrowed (actor.resolvedIn w.directory) filters) options).finds)
  := by
  rw [searchTotal, perform_search]
  simp only [h, if_true, Except.map]
  rw [List.countP_eq_length_filter, ← (Criteria.perm_sorted _ _).length_eq]
  rfl

/-- Who may see the numbers of a rescue gets the number of its records of some status and some
priority by a search for them. -/
theorem World.searchTotal_of_mayDoFor_viewStatistics (policy : Policy) (options : SearchOptions)
    (status : Option (OneOrMany Status)) (priority : Option (OneOrMany Priority))
    (h : (actor.resolvedIn w.directory).mayDoFor .viewStatistics
      (Service.statisticsScope (actor.resolvedIn w.directory) rescue) = true) :
  w.searchTotal policy { rescueId := rescue, status, priority } options actor
    = .ok ((w.records.ofRescue
        (Service.statisticsScope (actor.resolvedIn w.directory) rescue)).countP fun a =>
          Filters.admits status (·.contains a.status) && Filters.admits priority (·.contains a.priority))
  := by
  obtain ⟨hnarrowed, hsearch⟩ := Service.narrowed_of_mayDoFor_viewStatistics
    (f := { rescueId := rescue, status, priority }) rfl h
  rw [searchTotal_eq _ (by rw [hnarrowed]; exact hsearch), hnarrowed, Records.ofRescue,
    List.countP_filter]
  congr 1
  apply List.countP_congr
  intro a _
  rw [criteria_finds_mark]

/-- The order in which the records are stored does not matter for a search total. -/
theorem World.searchTotal_perm {records : Records} (h : records.Perm w.records) (filters : Filters) :
  World.searchTotal { w with records } policy filters options actor
    = w.searchTotal policy filters options actor
  := by
  rw [searchTotal, searchTotal, perform_search, perform_search]
  simp only
  split
  · have htotal := (Criteria.perm_sorted (w.criteria policy
        (Service.narrowed (actor.resolvedIn w.directory) filters) options) records).trans
      ((h.filter _).trans (Criteria.perm_sorted _ w.records).symm)
    exact congrArg Except.ok htotal.length_eq
  · rfl

end Agreement

/-- The numbers that an actor gets of a rescue, or of all rescues, are those that the actor gets by
searching there: of every status and of every priority the total of a search for it, and
altogether the total of a search for nothing in particular, which is also the sum over the
statuses and the sum over the priorities.  The numbers of all rescues are the sums of those of
the rescues there are.  In whatever order the records are stored, the numbers are the same. -/
theorem statistics_agree_with_searches (policy : Policy) (w : World) (rescue : Option RescueId)
    (options : SearchOptions) (actor : Actor) (result : Statistics)
    (hresult : (w.perform (Service.statistics rescue actor)).1 = .ok result) :
  (∀ status, ∃ n, result.ofStatus status = some n
    ∧ w.searchTotal policy { rescueId := rescue, status := some (.one status) } options actor = .ok n)
  ∧ (∀ priority, ∃ n, result.ofPriority priority = some n
    ∧ w.searchTotal policy { rescueId := rescue, priority := some (.one priority) } options actor
      = .ok n)
  ∧ w.searchTotal policy { rescueId := rescue } options actor = .ok result.total
  ∧ w.searchTotal policy { rescueId := rescue, status := some (.one .submitted) } options actor
      = .ok result.pending
  ∧ result.total = (result.byStatus.map Prod.snd).sum
  ∧ result.total = (result.byPriority.map Prod.snd).sum
  ∧ (result.rescueId = none → ∀ rescues : List RescueId, rescues.Nodup →
      (∀ a ∈ w.records, a.isDeleted = false → a.rescueId ∈ rescues) →
    ∃ parts : List Statistics,
      rescues.map (fun r => (w.perform (Service.statistics (some r) actor)).1) = parts.map .ok
      ∧ result.total = (parts.map Statistics.total).sum
      ∧ result.pending = (parts.map Statistics.pending).sum
      ∧ (∀ status, result.ofStatus status
        = some (parts.map fun part => (part.ofStatus status).getD 0).sum)
      ∧ ∀ priority, result.ofPriority priority
        = some (parts.map fun part => (part.ofPriority priority).getD 0).sum)
  ∧ ∀ records : Records, records.Perm w.records →
    (World.perform { w with records } (Service.statistics rescue actor)).1 = .ok result
    ∧ ∀ filters, World.searchTotal { w with records } policy filters options actor
      = w.searchTotal policy filters options actor
  := by
  have hanswer := World.perform_statistics (w := w) rescue actor
  rw [hresult] at hanswer
  simp only at hanswer
  split at hanswer
  case isFalse => cases hanswer
  case isTrue hmay =>
    obtain rfl := Except.ok.inj hanswer
    refine ⟨?_, ?_, ?_, ?_, Statistics.sum_byStatus_of.symm, Statistics.sum_byPriority_of.symm, ?_, ?_⟩
    · intro status
      refine ⟨_, Statistics.ofStatus_of status, ?_⟩
      rw [World.searchTotal_of_mayDoFor_viewStatistics policy options _ none hmay,
        Statistics.countP_status]
    · intro priority
      refine ⟨_, Statistics.ofPriority_of priority, ?_⟩
      rw [World.searchTotal_of_mayDoFor_viewStatistics policy options none _ hmay,
        Statistics.countP_priority]
    · rw [World.searchTotal_of_mayDoFor_viewStatistics policy options none none hmay]
      exact congrArg Except.ok (congrFun List.countP_true _)
    · rw [World.searchTotal_of_mayDoFor_viewStatistics policy options _ none hmay,
        Statistics.countP_status]
      rfl
    · intro hscope rescues hrescues hall
      have hrole : actor.role = .admin := by
        rw [← Actor.resolvedIn_role actor w.directory]
        exact Service.role_of_statisticsScope_eq_none hscope hmay
      change Service.statisticsScope (actor.resolvedIn w.directory) rescue = none at hscope
      rw [hscope]
      use rescues.map fun r => .of (some r) (w.records.ofRescue (some r))
      refine ⟨?_, Statistics.sum_ofRescue hrescues hall rfl rfl⟩
      rw [List.map_map]
      apply List.map_congr_left
      intro r _
      exact World.perform_statistics_of_admin hrole (some r)
    · intro records hperm
      refine ⟨?_, fun filters => World.searchTotal_perm hperm filters⟩
      rw [World.perform_statistics]
      simp only [hmay, if_true]
      exact congrArg Except.ok (Statistics.of_perm (hperm.filter _))

/-- The administrator counts both applications, as the search for submitted ones does, and they are
all of the one rescue. -/
theorem both_applications_counted :
  ∃ result part, (Demo.bothApplied.perform (Service.statistics none Demo.admin)).1 = .ok result
    ∧ (Demo.bothApplied.perform (Service.statistics (some Demo.rescue) Demo.admin)).1 = .ok part
    ∧ result.total = 2 ∧ part.total = 2
    ∧ Demo.bothApplied.searchTotal Demo.policy { status := some (.one .submitted) } {} Demo.admin
      = .ok result.pending
  := by
  cases hresult : (Demo.bothApplied.perform (Service.statistics none Demo.admin)).1 with
  | error e =>
    have hok : (Demo.bothApplied.perform (Service.statistics none Demo.admin)).1.isOk = true := by
      decide +kernel
    rw [hresult] at hok
    cases hok
  | ok result =>
    obtain ⟨-, -, -, hpending, -, -, hparts, -⟩ := statistics_agree_with_searches Demo.policy
      Demo.bothApplied none {} Demo.admin result hresult
    have htwo : (Demo.bothApplied.perform (Service.statistics none Demo.admin)).1.toOption.map
        Statistics.total = some 2 := by decide +kernel
    have hall : (Demo.bothApplied.perform (Service.statistics none Demo.admin)).1.toOption.map
        Statistics.rescueId = some none := by decide +kernel
    rw [hresult] at htwo hall
    obtain ⟨parts, hparts, htotal, -⟩ := hparts (Option.some.inj hall) [Demo.rescue]
      (List.nodup_singleton _) (by decide +kernel)
    obtain ⟨part, rfl⟩ := List.length_eq_one_iff.mp (by simpa using congrArg List.length hparts.symm)
    refine ⟨result, part, rfl, (List.cons.inj hparts).1, Option.some.inj htwo, ?_, hpending⟩
    rw [← Option.some.inj htwo, htotal]
    simp

end Rehoming
