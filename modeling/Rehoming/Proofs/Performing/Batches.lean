import Rehoming.Proofs.Performing.Books
import Rehoming.Proofs.Performing.Session
import Rehoming.Proofs.Sharing.Requests
/-!
# Batches, item by item

An item of a batch looks at the record of its name and changes no other record, so the items
neither help nor hinder each other.  A batch does what batches of one application each do one
after the other, and if its applications are all different, it does not matter in which order
they are named.
-/

namespace Rehoming

open Service

/-! ### Single patches -/

namespace Records

section Patch

variable (policy : Policy) (p : Patch) (actor : Actor) (now : Time.Instant)

/-- What a patch makes of the record of a name at a time, or why it is refused. -/
def patched (records : Records) (id : ApplicationId) : Except Refusal Application :=
  match records.fetch id false with
  | none => .error (.applicationNotFound id)
  | some before =>
    if actor.mayDo .bulkUpdate before then
      ((p.applyTo before actor.userId now).mapError .invalidTransition).map fun r =>
        r.1.rewritten before policy.ttlDays now
    else .error (.accessDenied .bulkUpdate (.application before.applicationId))

/-- The records after a patch, which stay as they are if it is refused. -/
def patch (records : Records) (id : ApplicationId) : Records :=
  match patched policy p actor now records id with
  | .ok a => records.replace a
  | .error _ => records

end Patch

variable {policy : Policy} {p : Patch} {actor : Actor} {now : Time.Instant}
  {records later : Records} {id id' : ApplicationId} {a : Application}

/-- What is made of the record of a name has its name. -/
theorem applicationId_of_patched (h : patched policy p actor now records id = .ok a) :
  a.applicationId = id
  := by
  rw [patched] at h
  cases hfound : records.fetch id false with
  | none =>
    rw [hfound] at h
    cases h
  | some before =>
    simp only [hfound] at h
    split at h
    case isFalse => cases h
    obtain ⟨hstored, -⟩ := fetch_eq_some_iff.mp hfound
    rw [← applicationId_of_find? hstored]
    cases happlied : p.applyTo before actor.userId now with
    | error refused =>
      rw [happlied] at h
      cases h
    | ok r =>
      obtain ⟨draft, move⟩ := r
      rw [happlied] at h
      obtain rfl := Except.ok.inj h
      change draft.applicationId = before.applicationId
      obtain ⟨-, rfl⟩ | ⟨-, -, -, -, rfl⟩ := Patch.applyTo_eq_ok happlied
      · rfl
      · rfl

/-- A patch only looks at the record of its name. -/
theorem patched_congr (h : later.find? id = records.find? id) :
  patched policy p actor now later id = patched policy p actor now records id
  := by
  rw [patched, patched, fetch, fetch, h]

theorem patch_of_ok (h : patched policy p actor now records id = .ok a) :
  patch policy p actor now records id = records.replace a
  := by
  rw [patch, h]

theorem patch_of_error {e : Refusal} (h : patched policy p actor now records id = .error e) :
  patch policy p actor now records id = records
  := by
  rw [patch, h]

/-- A patch leaves the records of other names as they are. -/
theorem find?_patch_of_ne (h : id' ≠ id) :
  (patch policy p actor now records id').find? id = records.find? id
  := by
  cases hpatched : patched policy p actor now records id' with
  | error e => rw [patch_of_error hpatched]
  | ok a =>
    obtain rfl := applicationId_of_patched hpatched
    rw [patch_of_ok hpatched, find?_replace, if_neg h]

/-- Patches of two names can be made in either order. -/
theorem patch_comm :
  patch policy p actor now (patch policy p actor now records id) id'
    = patch policy p actor now (patch policy p actor now records id') id
  := by
  by_cases hsame : id = id'
  · rw [hsame]
  have hfirst : patched policy p actor now (patch policy p actor now records id') id
      = patched policy p actor now records id := patched_congr (find?_patch_of_ne (Ne.symm hsame))
  have hsecond : patched policy p actor now (patch policy p actor now records id) id'
      = patched policy p actor now records id' := patched_congr (find?_patch_of_ne hsame)
  cases hid : patched policy p actor now records id with
  | error e =>
    rw [hid] at hfirst
    rw [patch_of_error hid, patch_of_error hfirst]
  | ok a =>
    rw [hid] at hfirst
    cases hid' : patched policy p actor now records id' with
    | error e =>
      rw [hid'] at hsecond
      rw [patch_of_error hid', patch_of_error hsecond]
    | ok b =>
      rw [hid'] at hsecond
      rw [patch_of_ok hfirst, patch_of_ok hsecond, patch_of_ok hid, patch_of_ok hid']
      apply replace_comm
      rwa [applicationId_of_patched hid', applicationId_of_patched hid]

end Records

namespace World

variable {policy : Policy} {p : Patch} {actor : Actor} {w : World} {id : ApplicationId}
  {ids : List ApplicationId}

/-! ### Items -/

/-- A commit of a change that an actor must be allowed to make, and the life cycle too, goes
through unless the record is missing or either refuses. -/
theorem perform_commit_allowed {β : Type} {operation : Operation}
    {change : Change (Option Application.StageMove)}
    {f : Application → Time.Instant → Except TransitionRefused (Application × Option Application.StageMove)}
    (hchange : ChangeAmends (fun _ => True) policy actor change)
    (hallowed : ∀ a now, change a now
      = (requireAccess actor operation a >>= fun _ => allowed (f a now)))
    (retries : Nat) (tail : Moved → Service β) :
  w.perform (commit policy id change retries >>= tail)
    = match w.records.fetch id false with
      | none => (.error (.applicationNotFound id), w)
      | some before =>
        if actor.mayDo operation before then
          match f before w.clock with
          | .error refused => (.error (.invalidTransition refused), w)
          | .ok (draft, outcome) =>
            let after := draft.rewritten before policy.ttlDays w.clock
            (w.write after).perform (tail { before, after, outcome })
        else (.error (.accessDenied operation (.application before.applicationId)), w)
  := by
  rw [perform_commit_bind hchange]
  cases w.records.fetch id false with
  | none => rfl
  | some before =>
    simp only [hallowed, perform_requireAccess_bind, perform_allowed]
    by_cases permitted : actor.mayDo operation before
    · simp only [if_pos permitted]
      cases f before w.clock with
      | error refused => rfl
      | ok r => rfl
    · simp only [if_neg permitted]

/-- An item patches the record of its name, and enters nothing into the books if it is
refused. -/
theorem perform_patchOne (policy : Policy) (p : Patch) (actor : Actor) (w : World)
    (id : ApplicationId) :
  ∃ events entries, w.perform (patchOne policy id p actor)
    = match Records.patched policy p actor w.clock w.records id with
      | .error e => (.error e, w)
      | .ok a => (.ok a, (w.write a).enter events entries)
  := by
  rw [patchOne, perform_commit_allowed patchChange_amends fun _ _ => rfl, Records.patched]
  cases w.records.fetch id false with
  | none => exact ⟨[], [], rfl⟩
  | some before =>
    simp only
    by_cases permitted : actor.mayDo .bulkUpdate before
    case neg =>
      use [], []
      simp only [if_neg permitted]
    simp only [if_pos permitted]
    cases p.applyTo before actor.userId w.clock with
    | error refused => exact ⟨[], [], rfl⟩
    | ok r =>
      obtain ⟨draft, move⟩ := r
      simp only [Except.mapError, Except.map]
      let after := draft.rewritten before policy.ttlDays w.clock
      split
      · obtain ⟨name, name', entry, hentered⟩ := perform_recordMove_log_bind (w := w.write after)
          { before, after, outcome := move } actor.userId none p.notes
          (patchedEntry p { before, after, outcome := move } actor.userId) (pure after)
        exact ⟨_, _, hentered⟩
      · rw [perform_log_bind]
        exact ⟨_, _, rfl⟩

/-- What an item leaves of the world. -/
theorem patchOne_leaves (policy : Policy) (p : Patch) (actor : Actor) (w : World)
    (id : ApplicationId) :
  (w.perform (patchOne policy id p actor)).1 = Records.patched policy p actor w.clock w.records id
  ∧ (w.perform (patchOne policy id p actor)).2.records
    = Records.patch policy p actor w.clock w.records id
  ∧ (w.perform (patchOne policy id p actor)).2.clock = w.clock
  ∧ (w.perform (patchOne policy id p actor)).2.directory = w.directory
  := by
  obtain ⟨events, entries, hperform⟩ := perform_patchOne policy p actor w id
  rw [hperform, Records.patch]
  cases Records.patched policy p actor w.clock w.records id with
  | error e => exact ⟨rfl, rfl, rfl, rfl⟩
  | ok a => exact ⟨rfl, rfl, rfl, rfl⟩

theorem performEach_cons (id : ApplicationId) (rest : List ApplicationId) :
  w.performEach policy p actor (id :: rest)
    = ⟨id, w, (w.perform (patchOne policy id p actor)).1, (w.perform (patchOne policy id p actor)).2⟩
      :: (w.perform (patchOne policy id p actor)).2.performEach policy p actor rest
  := rfl

/-- A batch leaves the records patched one after the other. -/
theorem records_afterItems :
  (w.afterItems (w.performEach policy p actor ids)).records
    = ids.foldl (Records.patch policy p actor w.clock) w.records
  := by
  induction ids generalizing w with
  | nil => rfl
  | cons id rest ih =>
    obtain ⟨-, hrecords, hclock, -⟩ := patchOne_leaves policy p actor w id
    rw [performEach_cons, afterItems, List.foldl_cons, ih, hrecords, hclock]

/-- A batch has an item for the applications that it names, and for no others. -/
theorem exists_item_iff :
  (∃ item ∈ w.performEach policy p actor ids, item.id = id) ↔ id ∈ ids
  := by
  have hnames : (w.performEach policy p actor ids).map BatchItem.id = ids := map_id_performEach
  rw [← List.mem_map, hnames]

/-- If the applications of a batch are all different, every item finds its record as it was
before the batch. -/
theorem outcome_of_nodup (hids : ids.Nodup) :
  ∀ item ∈ w.performEach policy p actor ids,
    item.outcome = Records.patched policy p actor w.clock w.records item.id
  := by
  induction ids generalizing w with
  | nil => rintro item ⟨⟩
  | cons id rest ih =>
    obtain ⟨houtcome, hrecords, hclock, -⟩ := patchOne_leaves policy p actor w id
    obtain ⟨hnew, hrest⟩ := List.nodup_cons.mp hids
    intro item hitem
    rw [performEach_cons] at hitem
    obtain rfl | hitem := List.mem_cons.mp hitem
    · exact houtcome
    · rw [ih hrest item hitem, hclock, hrecords]
      apply Records.patched_congr
      apply Records.find?_patch_of_ne
      rintro rfl
      exact hnew (exists_item_iff.mp ⟨item, hitem, rfl⟩)

/-- An item that succeeds answers the record of its name. -/
theorem applicationId_of_performEach {item : BatchItem} {a : Application}
    (h : item ∈ w.performEach policy p actor ids) (hok : item.outcome = .ok a) :
  a.applicationId = item.id
  := by
  have houtcome := congrArg Prod.fst (eq_of_mem_performEach h)
  rw [(patchOne_leaves policy p actor item.start item.id).1, hok] at houtcome
  exact Records.applicationId_of_patched houtcome

end World

/-! ### Answers -/

namespace BatchItem

variable {items : List BatchItem}

theorem filterMap_success (h : ∀ item ∈ items, ∀ a, item.outcome = .ok a → a.applicationId = item.id) :
  items.filterMap success? = (items.filter (·.outcome.isOk)).map BatchItem.id
  := by
  induction items with
  | nil => rfl
  | cons item rest ih =>
    have hrest := ih fun item' hitem' => h item' (List.mem_cons_of_mem item hitem')
    cases houtcome : item.outcome with
    | ok a =>
      have hname := h item List.mem_cons_self a houtcome
      simp [success?, houtcome, hname, hrest, Except.isOk, Except.toBool]
    | error e => simp [success?, houtcome, hrest, Except.isOk, Except.toBool]

theorem filterMap_failure (items : List BatchItem) :
  (items.filterMap failure?).map BatchFailure.applicationId
    = (items.filter (!·.outcome.isOk)).map BatchItem.id
  := by
  induction items with
  | nil => rfl
  | cons item rest ih =>
    cases houtcome : item.outcome with
    | ok a => simp [failure?, houtcome, ih, Except.isOk, Except.toBool]
    | error e => simp [failure?, houtcome, ih, Except.isOk, Except.toBool]

end BatchItem

/-! ### Batches -/

section Batch

variable {policy : Policy} {p : Patch} {actor : Actor} {w : World} {ids : List ApplicationId}

/-- The answer to a batch that is not refused as a whole. -/
def BatchResult.ofItems (items : List BatchItem) : BatchResult :=
  ⟨items.filterMap BatchItem.success?, items.filterMap BatchItem.failure?⟩

theorem World.perform_applyBatch_of_scope (hids : ids ≠ []) (hpatch : p.isEmpty = false)
    (hscope : (actor.resolvedIn w.directory).mayDoFor .bulkUpdate
      (actor.resolvedIn w.directory).rescueId = true) :
  w.perform (applyBatch policy ⟨ids, p⟩ actor)
    = (.ok (.ofItems (w.performEach policy p (actor.resolvedIn w.directory) ids)),
        w.afterItems (w.performEach policy p (actor.resolvedIn w.directory) ids))
  := by
  have hfaults : (Batch.faults ⟨ids, p⟩).isEmpty = true := by simp [Batch.faults, hids, hpatch]
  rw [applyBatch, perform_requireNone_bind, if_pos hfaults, perform_resolve_bind,
    perform_requireScope_bind, if_pos hscope, perform_lift, run_patchEach]
  rfl

/-- A batch does what batches of one application each do one after the other. -/
theorem World.afterItems_eq_foldl (hpatch : p.isEmpty = false)
    (hscope : (actor.resolvedIn w.directory).mayDoFor .bulkUpdate
      (actor.resolvedIn w.directory).rescueId = true) :
  w.afterItems (w.performEach policy p (actor.resolvedIn w.directory) ids)
    = ids.foldl (fun w id => (w.perform (applyBatch policy ⟨[id], p⟩ actor)).2) w
  := by
  induction ids generalizing w with
  | nil => rfl
  | cons id rest ih =>
    obtain ⟨-, -, -, hdirectory⟩ :=
      patchOne_leaves policy p (actor.resolvedIn w.directory) w id
    have hone : (w.perform (applyBatch policy ⟨[id], p⟩ actor)).2
        = (w.perform (patchOne policy id p (actor.resolvedIn w.directory))).2 := by
      rw [perform_applyBatch_of_scope (List.cons_ne_nil id []) hpatch hscope]
      rfl
    rw [performEach_cons, afterItems, List.foldl_cons, hone, ← ih, hdirectory]
    rwa [hdirectory]

/-- A batch of different applications succeeds with those that a patch changes as they are
before the batch. -/
theorem BatchResult.mem_successes_iff (hids : ids.Nodup) {id : ApplicationId} :
  id ∈ (ofItems (w.performEach policy p actor ids)).successes
    ↔ id ∈ ids ∧ ∃ a, Records.patched policy p actor w.clock w.records id = .ok a
  := by
  rw [ofItems, List.mem_filterMap]
  constructor
  · rintro ⟨item, hitem, hsuccess⟩
    cases houtcome : item.outcome with
    | error e => simp [BatchItem.success?, houtcome] at hsuccess
    | ok a =>
      have hname := World.applicationId_of_performEach hitem houtcome
      obtain rfl : item.id = id := by simpa [BatchItem.success?, houtcome, hname] using hsuccess
      use World.exists_item_iff.mp ⟨item, hitem, rfl⟩, a
      rw [← World.outcome_of_nodup hids item hitem, houtcome]
  · rintro ⟨hlisted, a, hpatched⟩
    obtain ⟨item, hitem, rfl⟩ := World.exists_item_iff.mpr hlisted
    have houtcome := (World.outcome_of_nodup hids item hitem).trans hpatched
    use item, hitem
    simp [BatchItem.success?, houtcome, Records.applicationId_of_patched hpatched]

/-- A batch of different applications fails with those that a patch does not change as they
are before the batch, each for the reason that the patch has. -/
theorem BatchResult.mem_failures_iff (hids : ids.Nodup) {failure : BatchFailure} :
  failure ∈ (ofItems (w.performEach policy p actor ids)).failures
    ↔ failure.applicationId ∈ ids
      ∧ Records.patched policy p actor w.clock w.records failure.applicationId
        = .error failure.refusal
  := by
  rw [ofItems, List.mem_filterMap]
  constructor
  · rintro ⟨item, hitem, hfailure⟩
    cases houtcome : item.outcome with
    | ok a => simp [BatchItem.failure?, houtcome] at hfailure
    | error e =>
      obtain rfl : ⟨item.id, e⟩ = failure := by
        simpa [BatchItem.failure?, houtcome] using hfailure
      use World.exists_item_iff.mp ⟨item, hitem, rfl⟩
      rw [← World.outcome_of_nodup hids item hitem, houtcome]
  · rintro ⟨hlisted, hpatched⟩
    obtain ⟨item, hitem, hname⟩ := World.exists_item_iff.mpr hlisted
    have houtcome := World.outcome_of_nodup hids item hitem
    rw [hname, hpatched] at houtcome
    use item, hitem
    simp [BatchItem.failure?, houtcome, hname]

/-- A batch that is not refused as a whole answers every application that it names as often as
it names it, changed or refused, in the order of the request, and counts them; it leaves the
world that batches of one application each leave one after the other.  If its applications are
all different, then in any order it leaves the same records, and the same becomes of every
application. -/
theorem batches_itemwise (policy : Policy) (b : Batch) (actor : Actor) (w : World)
    (hids : b.applicationIds ≠ []) (hpatch : b.updates.isEmpty = false)
    (hscope : (actor.resolvedIn w.directory).mayDoFor .bulkUpdate
      (actor.resolvedIn w.directory).rescueId = true) :
  ∃ result w', w.perform (applyBatch policy b actor) = (.ok result, w')
    ∧ result.successes.Sublist b.applicationIds
    ∧ (result.failures.map BatchFailure.applicationId).Sublist b.applicationIds
    ∧ (result.successes ++ result.failures.map BatchFailure.applicationId).Perm b.applicationIds
    ∧ result.toJson.get? "success_count" = some (.nat result.successes.length)
    ∧ result.toJson.get? "failure_count" = some (.nat result.failures.length)
    ∧ w' = b.applicationIds.foldl
        (fun w id => (w.perform (applyBatch policy { b with applicationIds := [id] } actor)).2) w
    ∧ (b.applicationIds.Nodup → ∀ ids, ids.Perm b.applicationIds →
        ∃ result' w'', w.perform (applyBatch policy { b with applicationIds := ids } actor)
            = (.ok result', w'')
          ∧ w''.records = w'.records
          ∧ (∀ id, id ∈ result'.successes ↔ id ∈ result.successes)
          ∧ ∀ failure, failure ∈ result'.failures ↔ failure ∈ result.failures)
  := by
  refine ⟨_, _, World.perform_applyBatch_of_scope hids hpatch hscope, ?_⟩
  generalize hitems : w.performEach policy b.updates (actor.resolvedIn w.directory) b.applicationIds
    = items
  have hnames : items.map BatchItem.id = b.applicationIds := by
    rw [← hitems, World.map_id_performEach]
  have hsuccesses : (BatchResult.ofItems items).successes
      = (items.filter (·.outcome.isOk)).map BatchItem.id := by
    apply BatchItem.filterMap_success
    rw [← hitems]
    intro item hitem a hok
    exact World.applicationId_of_performEach hitem hok
  have hfailures : (BatchResult.ofItems items).failures.map BatchFailure.applicationId
      = (items.filter (!·.outcome.isOk)).map BatchItem.id := BatchItem.filterMap_failure items
  refine ⟨?_, ?_, ?_, rfl, rfl, ?_, ?_⟩
  · rw [hsuccesses, ← hnames]
    exact List.filter_sublist.map BatchItem.id
  · rw [hfailures, ← hnames]
    exact List.filter_sublist.map BatchItem.id
  · rw [hsuccesses, hfailures, ← hnames, ← List.map_append]
    exact (List.filter_append_perm _ items).map BatchItem.id
  · rw [← hitems]
    exact World.afterItems_eq_foldl hpatch hscope
  · intro hnodup ids hperm
    have hids' : ids ≠ [] := by
      rintro rfl
      exact hids hperm.nil_eq.symm
    refine ⟨_, _, World.perform_applyBatch_of_scope hids' hpatch hscope, ?_, ?_, ?_⟩
    · rw [← hitems, World.records_afterItems, World.records_afterItems]
      apply hperm.foldl_eq'
      intro id _ id' _ records
      apply Records.patch_comm
    · intro id
      rw [← hitems, BatchResult.mem_successes_iff (hperm.nodup_iff.mpr hnodup),
        BatchResult.mem_successes_iff hnodup, hperm.mem_iff]
    · intro failure
      rw [← hitems, BatchResult.mem_failures_iff (hperm.nodup_iff.mpr hnodup),
        BatchResult.mem_failures_iff hnodup, hperm.mem_iff]

/-- A batch that approves one application and misses another one does so in either order. -/
theorem approval_itemwise :
  let b : Batch := ⟨[⟨"app-9"⟩, ⟨"app-1"⟩], ⟨some .approved, none, none, none⟩⟩
  ∃ result w' result' w'',
    Demo.applied.perform (applyBatch Demo.policy b Demo.admin) = (.ok result, w')
    ∧ Demo.applied.perform (applyBatch Demo.policy
        { b with applicationIds := [⟨"app-1"⟩, ⟨"app-9"⟩] } Demo.admin) = (.ok result', w'')
    ∧ w''.records = w'.records
    ∧ ⟨"app-1"⟩ ∈ result'.successes
    ∧ ⟨⟨"app-9"⟩, .applicationNotFound ⟨"app-9"⟩⟩ ∈ result'.failures
  := by
  intro b
  obtain ⟨result, w', hperform, -, -, -, -, -, -, horders⟩ :=
    batches_itemwise Demo.policy b Demo.admin Demo.applied (by decide) (by decide) (by decide)
  obtain ⟨result', w'', hperform', hrecords, hsuccesses, hfailures⟩ :=
    horders (by decide) [⟨"app-1"⟩, ⟨"app-9"⟩] (List.Perm.swap ..)
  have hanswer : (Demo.applied.perform (applyBatch Demo.policy b Demo.admin)).1
      = .ok ⟨[⟨"app-1"⟩], [⟨⟨"app-9"⟩, .applicationNotFound ⟨"app-9"⟩⟩]⟩ := by decide +kernel
  rw [hperform] at hanswer
  obtain rfl := Except.ok.inj hanswer
  refine ⟨_, w', result', w'', hperform, hperform', hrecords, ?_, ?_⟩
  · apply (hsuccesses _).mpr List.mem_cons_self
  · apply (hfailures _).mpr List.mem_cons_self

end Batch

end Rehoming
