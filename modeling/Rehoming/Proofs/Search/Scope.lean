import Rehoming.Proofs.Performing.Reading
import Rehoming.Proofs.Search.Pages
import Rehoming.Proofs.Sharing.Requests
import Rehoming.Proofs.Store.Records
/-!
# Searches show what may be read

Two ways lead to an application: a search, which is narrowed to what the actor may see before
the store is asked, and reading it by its name, which is checked when the application has been
found.  Both show the same.
-/

namespace Rehoming

/-- The filters as an actor asks for them: an adopter can only ask for applications of its
own. -/
def Filters.askedBy (f : Filters) (actor : Actor) : Filters :=
  if actor.role = .adopter then { f with userId := some actor.userId } else f

/-! ### Narrowing -/

section Narrowing

variable {actor : Actor} {f : Filters} {d : Directory} {a : Application}

/-- The rescue of a staff that may search is the only one that its searches are narrowed to. -/
theorem Actor.rescueId_of_mayDoFor_search {rescue : Option RescueId} (hrole : actor.role = .rescueStaff)
    (h : actor.mayDoFor .search (rescue.or actor.rescueId) = true) :
  ∃ own, actor.rescueId = some own ∧ rescue.or actor.rescueId = some own
  := by
  cases hown : actor.rescueId with
  | none =>
    rw [hown] at h
    cases rescue with
    | none | some requested => simp [mayDoFor, hrole, hown] at h
  | some own =>
    use own, rfl
    rw [hown] at h
    cases rescue with
    | none => rfl
    | some requested =>
      have hsame : requested = own := by simpa [mayDoFor, hrole, hown] using h
      rw [hsame]
      rfl

/-- Of the applications that an actor asks for, the narrowed filters want those that the actor
may view, and deleted ones if the actor is an administrator who asks for them. -/
theorem Service.narrowed_wants_iff
    (hscope : actor.mayDoFor .search (narrowed actor f).rescueId = true) :
  ((narrowed actor f).Wants d a ∧ (a.isDeleted = true → (narrowed actor f).includeDeleted = true))
    ↔ (f.askedBy actor).Wants d a ∧ actor.mayDo .view a = true
      ∧ (a.isDeleted = true → (f.includeDeleted && actor.role == .admin) = true)
  := by
  cases hrole : actor.role with
  | admin => simp [narrowed, Filters.askedBy, Actor.mayDo, hrole]
  | adopter =>
    have hnarrowed : narrowed actor f
        = { f with userId := some actor.userId, includeDeleted := false } := by
      simp [narrowed, hrole]
    have hasked : f.askedBy actor = { f with userId := some actor.userId } := by
      simp [Filters.askedBy, hrole]
    have hview : actor.mayDo .view a = true ↔ a.userId = actor.userId := by
      simp [Actor.mayDo, hrole, Application.isOwnedBy]
    rw [hnarrowed, hasked, hview]
    constructor
    · rintro ⟨hwants, hdeleted⟩
      refine ⟨{ hwants with }, (hwants.userId actor.userId rfl).symm, ?_⟩
      intro h
      cases hdeleted h
    · rintro ⟨hwants, howner, hdeleted⟩
      refine ⟨{ hwants with }, ?_⟩
      intro h
      have hadmin := hdeleted h
      simp at hadmin
  | rescueStaff =>
    have hnarrowed : narrowed actor f
        = { f with rescueId := f.rescueId.or actor.rescueId, includeDeleted := false } := by
      simp [narrowed, hrole]
    have hasked : f.askedBy actor = f := by
      simp [Filters.askedBy, hrole]
    rw [hnarrowed] at hscope
    obtain ⟨own, hown, hrescue⟩ := Actor.rescueId_of_mayDoFor_search hrole hscope
    have hview : actor.mayDo .view a = true ↔ own = a.rescueId := by
      simp [Actor.mayDo, hrole, Actor.sharesRescue, hown]
    rw [hnarrowed, hasked, hview, hrescue]
    constructor
    · rintro ⟨hwants, hdeleted⟩
      have hsame : own = a.rescueId := hwants.rescueId own rfl
      refine ⟨{ hwants with rescueId := ?_ }, hsame, ?_⟩
      · intro rescue hgiven
        rw [hgiven] at hrescue
        exact (Option.some.inj hrescue).trans hsame
      · intro h
        cases hdeleted h
    · rintro ⟨hwants, hsame, hdeleted⟩
      refine ⟨{ hwants with rescueId := ?_ }, ?_⟩
      · rintro rescue ⟨⟩
        exact hsame
      · intro h
        have hadmin := hdeleted h
        simp at hadmin

end Narrowing

/-! ### Searching and reading -/

section Reading

variable {policy : Policy} {w : World} {filters : Filters} {options : SearchOptions} {actor : Actor}
  {r : Application}

/-- A stored record is read if the actor may view it, and it is not deleted or the actor is an
administrator who asks for deleted ones. -/
theorem World.perform_read_eq_some_iff (hstored : w.records.find? r.applicationId = some r)
    {includeDeleted : Bool} :
  (w.perform (Service.read r.applicationId actor includeDeleted)).1 = .ok (some r)
    ↔ (actor.resolvedIn w.directory).mayDo .view r = true
      ∧ (r.isDeleted = true → (includeDeleted && actor.role == .admin) = true)
  := by
  have hvisible : (r.isDeleted = true → (includeDeleted && actor.role == .admin) = true)
      ↔ (includeDeleted && actor.role == .admin || !r.isDeleted) = true := by
    cases r.isDeleted with
    | true => simp
    | false => simp
  rw [perform_read, Records.fetch, hstored, hvisible, Option.filter_some]
  cases (includeDeleted && actor.role == .admin || !r.isDeleted) with
  | false => simp
  | true =>
    cases hview : (actor.resolvedIn w.directory).mayDo .view r with
    | false => simp [hview]
    | true => simp [hview]

/-- What a search finds among the stored records is what the actor asks for and may read. -/
theorem World.criteria_finds_iff (hstored : w.records.find? r.applicationId = some r)
    (hscope : (actor.resolvedIn w.directory).mayDoFor .search
      (Service.narrowed (actor.resolvedIn w.directory) filters).rescueId = true) :
  (w.criteria policy (Service.narrowed (actor.resolvedIn w.directory) filters) options).finds r = true
    ↔ (filters.askedBy actor).Wants w.directory r
      ∧ (w.perform (Service.read r.applicationId actor filters.includeDeleted)).1 = .ok (some r)
  := by
  have hasked : filters.askedBy (actor.resolvedIn w.directory) = filters.askedBy actor := by
    simp [Filters.askedBy]
  rw [perform_read_eq_some_iff hstored, ← hasked, ← Actor.resolvedIn_role actor w.directory,
    ← Service.narrowed_wants_iff hscope]
  exact Filters.wants_iff

theorem World.criteria_page (k : Nat) :
  w.criteria policy filters { options with page := some (k + 1) }
    = { w.criteria policy filters options with page := k + 1 }
  := by
  simp [criteria, Criteria.of]

/-- What one may read is not deleted unless one is an administrator, is one's own if one is an
adopter, and is of one's rescue if one is of the staff. -/
theorem World.readable {includeDeleted : Bool} (hstored : w.records.find? r.applicationId = some r)
    (hread : (w.perform (Service.read r.applicationId actor includeDeleted)).1 = .ok (some r)) :
  (actor.role ≠ .admin → r.isDeleted = false)
  ∧ (actor.role = .adopter → r.userId = actor.userId)
  ∧ (actor.role = .rescueStaff → (actor.resolvedIn w.directory).rescueId = some r.rescueId)
  := by
  obtain ⟨may, hdeleted⟩ := (perform_read_eq_some_iff hstored).mp hread
  refine ⟨?_, ?_, ?_⟩
  · intro hrole
    by_contra hpresent
    have hadmin := hdeleted (by simpa using hpresent)
    simp [hrole] at hadmin
  · intro hrole
    simpa [Actor.mayDo, hrole, Application.isOwnedBy] using may
  · intro hrole
    simpa [Actor.mayDo, hrole, Actor.sharesRescue] using may

end Reading

/-- Where every record has a name of its own, a search that succeeds shows, on all its pages
together, each of the stored records once that the filters of the actor want and that the actor
may read by its name, and it counts them.  So nobody but an administrator sees a deleted
application, no adopter one of somebody else, and no staff one of another rescue. -/
theorem search_shows_readable (policy : Policy) (w : World) (filters : Filters)
    (options : SearchOptions) (actor : Actor) (result : SearchResult)
    (hstored : w.records.Distinct)
    (hresult : (w.perform (Service.search policy filters options actor)).1 = .ok result) :
  ∃ shown : List Application,
    (∀ count, result.pagination.totalPages ≤ count → ∃ pages : List SearchResult,
      (List.range count).map (fun k => (w.perform
          (Service.search policy filters { options with page := some (k + 1) } actor)).1)
        = pages.map .ok
      ∧ pages.flatMap SearchResult.applications = shown)
    ∧ result.applications ⊆ shown ∧ shown.Nodup ∧ result.pagination.total = shown.length
    ∧ (∀ r, r ∈ shown ↔ r ∈ w.records ∧ (filters.askedBy actor).Wants w.directory r
      ∧ (w.perform (Service.read r.applicationId actor filters.includeDeleted)).1 = .ok (some r))
    ∧ ∀ r ∈ shown, (actor.role ≠ .admin → r.isDeleted = false)
      ∧ (actor.role = .adopter → r.userId = actor.userId)
      ∧ (actor.role = .rescueStaff → (actor.resolvedIn w.directory).rescueId = some r.rescueId)
  := by
  rw [World.perform_search] at hresult
  simp only at hresult
  split at hresult
  case isFalse => cases hresult
  case isTrue hscope =>
    obtain rfl := Except.ok.inj hresult
    generalize hnarrowed : Service.narrowed (actor.resolvedIn w.directory) filters = narrowed at *
    have hshown : ∀ r, r ∈ (w.criteria policy narrowed options).sorted w.records
        ↔ r ∈ w.records ∧ (filters.askedBy actor).Wants w.directory r
          ∧ (w.perform (Service.read r.applicationId actor filters.includeDeleted)).1 = .ok (some r) := by
      intro r
      rw [Criteria.mem_sorted_iff]
      constructor
      · rintro ⟨hr, hfinds⟩
        subst hnarrowed
        exact ⟨hr, (World.criteria_finds_iff (hstored.find?_eq hr) hscope).mp hfinds⟩
      · rintro ⟨hr, hwants⟩
        subst hnarrowed
        exact ⟨hr, (World.criteria_finds_iff (hstored.find?_eq hr) hscope).mpr hwants⟩
    use (w.criteria policy narrowed options).sorted w.records
    refine ⟨?_, ?_, Criteria.nodup_sorted hstored.nodup, rfl, hshown, ?_⟩
    · intro count hcount
      use (List.range count).map fun k =>
        w.searchPage policy narrowed { options with page := some (k + 1) }
      constructor
      · rw [List.map_map]
        apply List.map_congr_left
        intro k _
        rw [World.perform_search]
        simp only [hnarrowed, hscope, if_true]
        rfl
      · rw [List.flatMap_map]
        have hpages := (w.criteria policy narrowed options).flatMap_pageOf w.records
          (Criteria.limit_of_pos narrowed options policy.defaultPageSize policy.maxPageSize) hcount
        rw [← hpages]
        apply List.flatMap_congr
        intro k _
        rw [← World.criteria_page]
        rfl
    · intro r hr
      exact List.mem_of_mem_drop (List.mem_of_mem_take hr)
    · intro r hr
      obtain ⟨hmem, -, hread⟩ := (hshown r).mp hr
      exact World.readable (hstored.find?_eq hmem) hread

/-- The filters that ask for somebody of the name Rowe. -/
def Demo.byName : Filters where
  search := some " ROWE "

/-- Of the two applications the staff finds the one whose applicant has that name, and it may
read that one. -/
theorem search_by_name_shows_readable :
  ∃ r ∈ Demo.bothApplied.records, r.applicationId = ⟨"app-1"⟩
    ∧ (Demo.byName.askedBy Demo.staff).Wants Demo.bothApplied.directory r
    ∧ (Demo.bothApplied.perform (Service.read r.applicationId Demo.staff false)).1 = .ok (some r)
  := by
  have hdistinct : Demo.bothApplied.records.Distinct := by
    rw [Records.Distinct]
    decide +kernel
  cases hresult : (Demo.bothApplied.perform
      (Service.search Demo.policy Demo.byName {} Demo.staff)).1 with
  | error e =>
    have hok : (Demo.bothApplied.perform
        (Service.search Demo.policy Demo.byName {} Demo.staff)).1.isOk = true := by decide +kernel
    rw [hresult] at hok
    cases hok
  | ok result =>
    have hnames : ((Demo.bothApplied.perform
        (Service.search Demo.policy Demo.byName {} Demo.staff)).1.toOption.map fun result =>
          result.applications.map Application.applicationId) = some [⟨"app-1"⟩] := by decide +kernel
    rw [hresult] at hnames
    have hfirst : result.applications.map Application.applicationId = [⟨"app-1"⟩] :=
      Option.some.inj hnames
    obtain ⟨r, hr, hname⟩ := List.mem_map.mp (hfirst ▸ List.mem_singleton_self _)
    obtain ⟨shown, -, hpage, -, -, hshown, -⟩ := search_shows_readable Demo.policy Demo.bothApplied
      Demo.byName {} Demo.staff result hdistinct hresult
    obtain ⟨hstored, hwants, hread⟩ := (hshown r).mp (hpage hr)
    exact ⟨r, hstored, hname, hwants, hread⟩

end Rehoming
