import Rehoming.Proofs.Performing.Books
import Rehoming.Proofs.Performing.Reading
import Rehoming.Proofs.Performing.Session
import Rehoming.Proofs.Search.Pages
import Rehoming.Proofs.Sharing.Requests
/-!
# Deleted applications

A deleted application stays in the store as it is for ever, and nobody can do anything with it
any more.  Only administrators see it, and only if they ask for it; everybody else is answered
as if it were not there.
-/

namespace Rehoming

namespace Records

/-- The records of other names. -/
def without (records : Records) (id : ApplicationId) : Records :=
  records.filter fun a => a.applicationId ≠ id

/-- That a deleted record is stored, and is the only one of its name. -/
structure Buries (records : Records) (a : Application) : Prop extends records.Holds a where
  deleted : a.isDeleted = true

variable {records : Records} {a b : Application}

theorem Buries.fetch_false (h : records.Buries a) :
  records.fetch a.applicationId false = none
  := by
  simp [fetch, h.stored, h.deleted]

theorem Buries.filter_without (h : records.Buries a) {p : Application → Bool}
    (hp : ∀ b, b.isDeleted = true → p b = false) :
  (records.without a.applicationId).filter p = records.filter p
  := by
  rw [without, List.filter_filter]
  apply List.filter_congr
  intro b hb
  by_cases hname : b.applicationId = a.applicationId
  · obtain rfl := h.alone b hb hname
    simp [hp b h.deleted]
  · simp [hname]

theorem Buries.findActive_without (h : records.Buries a) (user : UserId) (pet : PetId) :
  (records.without a.applicationId).findActive user pet = records.findActive user pet
  := by
  apply find?_eq_of_filter_eq
  apply h.filter_without
  intro b hb
  simp [Application.isActive, hb]

/-- A search that does not ask for deleted records finds nothing of one. -/
theorem Buries.search_without (h : records.Buries a) {c : Criteria}
    (hflag : c.filters.includeDeleted = false) :
  (records.without a.applicationId).search c = records.search c
  := by
  have hfinds : ∀ b : Application, b.isDeleted = true → c.finds b = false := by
    intro b hb
    simp [Criteria.finds, Filters.passedBy, hb, hflag]
  rw [search, search, Criteria.pageOf, Criteria.pageOf, Criteria.sorted, Criteria.sorted,
    h.filter_without hfinds]

theorem find?_without {id : ApplicationId} (hother : id ≠ a.applicationId) :
  (records.without a.applicationId).find? id = records.find? id
  := by
  rw [find?, find?, without, List.find?_filter]
  congr 1
  funext b
  by_cases hname : b.applicationId = id
  · simp [hname, hother]
  · simp [hname]

/-- A deleted record keeps no record of another name from being inserted. -/
theorem Buries.insert_without (h : records.Buries a) (hother : b.applicationId ≠ a.applicationId) :
  (records.without a.applicationId).insert b
    = (records.insert b).map fun later => later.without a.applicationId
  := by
  have hrivals : (records.without a.applicationId).any (fun c => c.isActive && samePair c b)
      = records.any fun c => c.isActive && samePair c b := by
    apply any_eq_of_filter_eq
    apply h.filter_without
    intro c hc
    simp [Application.isActive, hc]
  rw [insert, insert, find?_without hother, hrivals]
  split
  case isTrue => rfl
  split
  case isTrue => rfl
  simp [without, Except.map, hother]

end Records

namespace World

/-- The world without the records of a name. -/
def without (w : World) (id : ApplicationId) : World :=
  { w with records := w.records.without id }

/-- What is left of an application for a world to show once it has been deleted: nothing can be
done to it, only administrators who ask for it see it, and everything else is answered as if it
were not there. -/
structure Conceals (policy : Policy) (w : World) (id : ApplicationId) : Prop where
  mutations : ∀ m : Mutation, m.target = some id →
    ∃ e, w.perform (m.service policy) = (.error e, w)
  batches : ∀ b actor result, (w.perform (Service.applyBatch policy b actor)).1 = .ok result →
    id ∉ result.successes
    ∧ (id ∈ b.applicationIds → ⟨id, .applicationNotFound id⟩ ∈ result.failures)
  read : ∀ actor includeDeleted, (actor.role = .admin → includeDeleted = false) →
    (w.perform (Service.read id actor includeDeleted)).1 = .ok none
  timeline : ∀ actor query, actor.role ≠ .admin →
    (w.perform (Service.timeline id query actor)).1 = .error (.applicationNotFound id)
  timelineStats : ∀ actor, actor.role ≠ .admin →
    (w.perform (Service.timelineStats id actor)).1 = .error (.applicationNotFound id)
  search : ∀ filters options actor, (actor.role = .admin → filters.includeDeleted = false) →
    (w.perform (Service.search policy filters options actor)).1
      = ((w.without id).perform (Service.search policy filters options actor)).1
  listing : ∀ filters options actor result, (actor.role = .admin → filters.includeDeleted = false) →
    (w.perform (Service.search policy filters options actor)).1 = .ok result →
    ∀ a ∈ result.applications, a.applicationId ≠ id
  statistics : ∀ rescue actor,
    (w.perform (Service.statistics rescue actor)).1
      = ((w.without id).perform (Service.statistics rescue actor)).1
  submissions : ∀ s actor, w.fresh .application ≠ id.text →
    (w.perform (Service.submit policy s actor)).1
      = ((w.without id).perform (Service.submit policy s actor)).1

variable {policy : Policy} {w : World} {a : Application}

/-- Whatever a mutation does, a buried record stays as it is. -/
theorem buries_perform (h : w.records.Buries a) (m : Mutation) :
  (w.perform (m.service policy)).2.records.Buries a
  := by
  have hends := m.perform_ends policy w
  generalize w.perform (m.service policy) = r at hends
  cases hends with
  | refused e => exact h
  | filed s actor b petName name entry hsubmit hdrafted hinsert =>
    obtain ⟨hfree, -, -⟩ := Records.insert_eq_ok_iff.mp hinsert
    exact ⟨h.append hfree, h.deleted⟩
  | amended before draft events entries htarget hstored hdeleted henacts =>
    refine ⟨h.replace ?_, h.deleted⟩
    intro hname
    have hsame : before.applicationId = a.applicationId := henacts.applicationId.symm.trans hname
    rw [hsame, h.stored] at hstored
    obtain rfl := Option.some.inj hstored
    rw [h.deleted] at hdeleted
    cases hdeleted

/-- A deletion that succeeds buries the record of its name. -/
theorem buries_of_delete {id : ApplicationId} {actor : Actor} {w₁ : World}
    (h : w.perform (Service.delete policy id actor) = (.ok (), w₁)) :
  ∃ a, a.applicationId = id ∧ w₁.records.Buries a
  := by
  have hends : (Mutation.delete id actor).Ends policy w (fun _ => ()) _ := Service.ends_delete
  rw [h] at hends
  cases hends with
  | filed s actor a petName name entry hsubmit => cases hsubmit
  | amended before draft events entries htarget hstored hdeleted henacts =>
    obtain rfl := Option.some.inj htarget
    use draft.rewritten before policy.ttlDays w.clock, henacts.applicationId
    have hname : w.records.find? (draft.rewritten before policy.ttlDays w.clock).applicationId
        = some before := by
      rw [← hstored]
      exact congrArg _ henacts.applicationId
    refine ⟨Records.holds_replace hname, ?_⟩
    cases henacts
    rfl

/-- A mutation of a buried record is refused. -/
theorem perform_of_buries (h : w.records.Buries a) {m : Mutation} (htarget : m.target = some a.applicationId) :
  ∃ e, w.perform (m.service policy) = (.error e, w)
  := by
  have hends := m.perform_ends policy w
  generalize w.perform (m.service policy) = r at hends
  cases hends with
  | refused e => exact ⟨e, rfl⟩
  | filed s actor b petName name entry hsubmit =>
    rw [hsubmit] at htarget
    cases htarget
  | amended before draft events entries htarget' hstored hdeleted henacts =>
    rw [htarget] at htarget'
    rw [← Option.some.inj htarget', h.stored] at hstored
    obtain rfl := Option.some.inj hstored
    rw [h.deleted] at hdeleted
    cases hdeleted

/-- A patch of a buried record finds no application. -/
theorem perform_patchOne_of_buries (h : w.records.Buries a) (p : Patch) (actor : Actor) :
  w.perform (Service.patchOne policy a.applicationId p actor)
    = (.error (.applicationNotFound a.applicationId), w)
  := by
  rw [Service.patchOne, perform_commit_bind Service.patchChange_amends, h.fetch_false]

/-- A patch answers the record of the name it was meant for. -/
theorem applicationId_of_patchOne {id : ApplicationId} {p : Patch} {actor : Actor} {b : Application}
    {w' : World} (h : w.perform (Service.patchOne policy id p actor) = (.ok b, w')) :
  b.applicationId = id
  := by
  have hends : (Mutation.patch id p actor).Ends policy w (fun stored => stored) _ :=
    Service.ends_patchOne p
  rw [h] at hends
  cases hends with
  | filed s actor a petName name entry hsubmit => cases hsubmit
  | amended before draft events entries htarget hstored hdeleted henacts =>
    obtain rfl := Option.some.inj htarget
    exact henacts.applicationId

/-- A batch reports a buried record as one that it has not found. -/
theorem batch_of_buries (h : w.records.Buries a) {b : Batch} {actor : Actor} {result : BatchResult}
    (hresult : (w.perform (Service.applyBatch policy b actor)).1 = .ok result) :
  a.applicationId ∉ result.successes
  ∧ (a.applicationId ∈ b.applicationIds →
      ⟨a.applicationId, .applicationNotFound a.applicationId⟩ ∈ result.failures)
  := by
  obtain ⟨e, hrefused⟩ | ⟨items, hitems, hperformed⟩ := Service.perform_applyBatch policy b actor w
  · rw [hrefused] at hresult
    cases hresult
  rw [hperformed] at hresult
  obtain rfl := Except.ok.inj hresult
  have hstarts : ∀ item ∈ items, item.start.records.Buries a := by
    rw [hitems]
    apply performEach_start (P := fun w => w.records.Buries a) h
    intro id w' h'
    exact buries_perform h' (.patch id b.updates (actor.resolvedIn w.directory))
  have hmissing : ∀ item ∈ items, item.id = a.applicationId →
      item.outcome = .error (.applicationNotFound a.applicationId) := by
    intro item hitem hname
    have hitem' := hitem
    rw [hitems] at hitem'
    have hperform := eq_of_mem_performEach hitem'
    rw [hname, perform_patchOne_of_buries (hstarts item hitem)] at hperform
    exact (congrArg Prod.fst hperform).symm
  constructor
  · intro hsuccess
    obtain ⟨item, hitem, hsome⟩ := List.mem_filterMap.mp hsuccess
    cases houtcome : item.outcome with
    | error e => simp [BatchItem.success?, houtcome] at hsome
    | ok c =>
      have hitem' := hitem
      rw [hitems] at hitem'
      have hperform := eq_of_mem_performEach hitem'
      rw [houtcome] at hperform
      have hname : item.id = a.applicationId := by
        rw [← applicationId_of_patchOne hperform]
        simpa [BatchItem.success?, houtcome] using hsome
      rw [hmissing item hitem hname] at houtcome
      cases houtcome
  · intro hid
    have hnames : items.map BatchItem.id = b.applicationIds := by
      rw [hitems, map_id_performEach]
    rw [← hnames] at hid
    obtain ⟨item, hitem, hname⟩ := List.mem_map.mp hid
    apply List.mem_filterMap.mpr
    use item, hitem
    simp only [BatchItem.failure?, hmissing item hitem hname, hname]

/-- Only an administrator who asks for deleted records searches for them. -/
theorem includeDeleted_narrowed {actor : Actor} {filters : Filters}
    (h : actor.role = .admin → filters.includeDeleted = false) :
  (Service.narrowed actor filters).includeDeleted = false
  := by
  rw [Service.narrowed]
  cases hrole : actor.role with
  | admin => simpa using h hrole
  | adopter => rfl
  | rescueStaff => rfl

/-- A search that does not ask for deleted records finds what it finds without a buried one. -/
theorem search_of_buries (h : w.records.Buries a) {filters : Filters} {options : SearchOptions}
    {actor : Actor} (hflag : actor.role = .admin → filters.includeDeleted = false) :
  (w.perform (Service.search policy filters options actor)).1
    = ((w.without a.applicationId).perform (Service.search policy filters options actor)).1
  := by
  have hnarrowed : (w.criteria policy (Service.narrowed (actor.resolvedIn w.directory) filters)
      options).filters.includeDeleted = false := by
    apply includeDeleted_narrowed
    simpa using hflag
  have hpage := h.search_without hnarrowed
  rw [perform_search, perform_search]
  simp only [searchPage, ← hpage]
  rfl

/-- A search in a world without the records of a name lists none of them. -/
theorem applicationId_ne_of_search {id : ApplicationId} {filters : Filters} {options : SearchOptions}
    {actor : Actor} {result : SearchResult}
    (hresult : ((w.without id).perform (Service.search policy filters options actor)).1 = .ok result) :
  ∀ b ∈ result.applications, b.applicationId ≠ id
  := by
  intro b hb
  rw [perform_search] at hresult
  simp only at hresult
  split at hresult
  case isFalse => cases hresult
  obtain rfl := Except.ok.inj hresult
  have hmatched := Criteria.mem_sorted_iff.mp (List.mem_of_mem_drop (List.mem_of_mem_take hb))
  simpa using (List.mem_filter.mp hmatched.1).2

/-- A submission whose record gets another name ends as it ends without a buried record. -/
theorem submit_of_buries (h : w.records.Buries a) {s : Submission} {actor : Actor}
    (hfresh : w.fresh .application ≠ a.applicationId.text) :
  (w.perform (Service.submit policy s actor)).1
    = ((w.without a.applicationId).perform (Service.submit policy s actor)).1
  := by
  have hdrafted : (w.without a.applicationId).drafted policy s actor = w.drafted policy s actor := by
    simp only [drafted, without, h.findActive_without]
    rfl
  rw [perform_submit, perform_submit, hdrafted]
  cases hr : w.drafted policy s actor with
  | error e => rfl
  | ok r =>
    have hother : r.1.applicationId ≠ a.applicationId := by
      obtain ⟨pet, rescue, hmade⟩ := eq_of_drafted hr
      rw [hmade]
      intro hname
      exact hfresh (congrArg ApplicationId.text hname)
    have hinsert := h.insert_without hother
    simp only
    rw [show (w.without a.applicationId).records = w.records.without a.applicationId from rfl, hinsert]
    cases w.records.insert r.1 with
    | error e => rfl
    | ok later => rfl

/-- A buried record is concealed. -/
theorem conceals_of_buries (h : w.records.Buries a) :
  w.Conceals policy a.applicationId
  := by
  constructor
  case mutations => exact fun m htarget => perform_of_buries h htarget
  case batches => exact fun b actor result hresult => batch_of_buries h hresult
  case read =>
    intro actor includeDeleted hflag
    have hhidden : (includeDeleted && actor.role == .admin) = false := by
      cases includeDeleted with
      | false => rfl
      | true => simpa using hflag
    rw [perform_read, hhidden, h.fetch_false]
  case timeline =>
    intro actor query hrole
    have hhidden : (actor.role == .admin) = false := by simpa using hrole
    rw [perform_timeline, hhidden, h.fetch_false]
  case timelineStats =>
    intro actor hrole
    have hhidden : (actor.role == .admin) = false := by simpa using hrole
    rw [perform_timelineStats, hhidden, h.fetch_false]
  case search => exact fun filters options actor hflag => search_of_buries h hflag
  case listing =>
    intro filters options actor result hflag hresult
    rw [search_of_buries h hflag] at hresult
    exact applicationId_ne_of_search hresult
  case statistics =>
    intro rescue actor
    rw [perform_statistics, perform_statistics]
    simp only [Records.ofRescue, without]
    rw [h.filter_without]
    · rfl
    · intro b hb
      simp [hb]
  case submissions => exact fun s actor hfresh => submit_of_buries h hfresh

end World

/-- Once an application has been deleted, whoever asks for whatever later, the deleted record
stays as it is, and it is concealed. -/
theorem deletion_permanent (policy : Policy) (w w₁ : World) (id : ApplicationId) (owner : Actor)
    (hdeleted : w.perform (Service.delete policy id owner) = (.ok (), w₁))
    (occasions : List Occasion) (t : Moment) :
  let later := (w₁.serveAll policy occasions).atMoment t
  ∃ a, a.isDeleted = true ∧ w₁.records.find? id = some a ∧ later.records.find? id = some a
    ∧ later.Conceals policy id
  := by
  intro later
  obtain ⟨a, rfl, hburied⟩ := World.buries_of_delete hdeleted
  have hlater : later.records.Buries a := by
    apply World.serveAll_induction (P := fun w => w.records.Buries a) _ _ occasions hburied
    · exact fun w t h => h
    · exact fun m w h => World.buries_perform h m
  exact ⟨a, hburied.deleted, hburied.stored, hlater.stored, World.conceals_of_buries hlater⟩

namespace Demo

/-- The world in which the adopter has deleted the application. -/
def regretted : World :=
  (applied.perform (Service.delete policy ⟨"app-1"⟩ adopter)).2

/-- Later the adopter tries to withdraw the deleted application, and applies for the pet again. -/
def secondThoughts : List Occasion :=
  [⟨moment 1, .mutation (.withdraw ⟨"app-1"⟩ ⟨none⟩ adopter)⟩,
   ⟨moment 2, .mutation (.submit (submission rufus) adopter)⟩]

end Demo

/-- The deleted application is concealed, and does not keep the adopter from applying again. -/
theorem regretted_application_concealed :
  let later := (Demo.regretted.serveAll Demo.policy Demo.secondThoughts).atMoment (Demo.moment 3)
  (∃ a, a.isDeleted = true ∧ Demo.regretted.records.find? ⟨"app-1"⟩ = some a
    ∧ later.records.find? ⟨"app-1"⟩ = some a ∧ later.Conceals Demo.policy ⟨"app-1"⟩)
  ∧ later.records.map Application.applicationId = [⟨"app-1"⟩, ⟨"app-2"⟩]
  := by
  constructor
  · apply deletion_permanent Demo.policy Demo.applied Demo.regretted ⟨"app-1"⟩ Demo.adopter
    have hok : (Demo.applied.perform (Service.delete Demo.policy ⟨"app-1"⟩ Demo.adopter)).1.isOk
        = true := by decide +kernel
    apply Prod.ext
    · cases hresult : (Demo.applied.perform (Service.delete Demo.policy ⟨"app-1"⟩ Demo.adopter)).1 with
      | error e =>
        rw [hresult] at hok
        cases hok
      | ok u => rfl
    · rfl
  · decide +kernel

end Rehoming
