import Rehoming.Proofs.Collection.Ordered
import Rehoming.Proofs.Performing.Commit
import Rehoming.Proofs.Reference.Backfill
import Rehoming.Proofs.Sharing.Requests
/-!
# Reports on slots

A report on a slot that runs alone makes the list of slots grow until it has the slot that is
meant, and tells how many slots it has added.  Reports on different slots of an application can
be made in any order, and each of them as often as one likes.
-/

namespace Rehoming

open Service

/-! ### Slots that are added -/

/-- A list of slots that is to have a position keeps the slots it has, gets a slot for each person
named in the answers who is not listed, in the order of the answers and as long as it is too
short, and then placeholders; and a report on the slot at the position tells how many slots that
are. -/
theorem slots_backfilled (slots : List Reference) (index : Nat) (answers : Answers) :
  ∃ contacts count,
    Reference.Backfills slots index answers contacts count (Reference.ensureSlot slots index answers)
    ∧ ∀ (a : Application) (u : ReferenceUpdate) (actor : Actor) (now : Time.Instant),
        a.references = slots → a.answers = answers → actor.mayDo .updateReference a = true →
        ∃ draft outcome, checkChange u index actor a now = pure (draft, outcome)
          ∧ draft.references = u.apply index (Reference.ensureSlot slots index answers)
          ∧ outcome.added = contacts.length + count
  := by
  obtain ⟨contacts, count, hbackfills, hcount⟩ := Reference.backfills_ensureSlot slots index answers
  use contacts, count, hbackfills
  rintro a u actor now rfl rfl may
  simp only [checkChange, requireAccess, require, may, if_true, pure_bind]
  refine ⟨_, _, rfl, rfl, ?_⟩
  simp only [Reference.length_ensureSlot]
  omega

/-! ### One report -/

/-- What decides on whether somebody may report on the slots of an application is its rescue. -/
theorem Actor.mayDo_updateReference_congr {actor : Actor} {a b : Application}
    (h : b.rescueId = a.rescueId) :
  actor.mayDo .updateReference b = actor.mayDo .updateReference a
  := by
  simp only [mayDo, sharesRescue, h]

/-- A report on a slot, and who makes it. -/
structure Check where
  report : ReferenceUpdate
  actor : Actor

namespace Check

/-- The slots after a report, if it tells which slot is meant. -/
def revise (policy : Policy) (answers : Answers) (slots : List Reference) (c : Check) :
    List Reference :=
  match c.report.resolve policy.maxReferenceSlots with
  | .ok index => c.report.report index answers slots
  | .error _ => slots

/-- That a report tells which slot is meant, and comes from somebody who may make it. -/
def Admitted (policy : Policy) (d : Directory) (a : Application) (c : Check) : Prop :=
  (∃ index, c.report.resolve policy.maxReferenceSlots = .ok index)
    ∧ (c.actor.resolvedIn d).mayDo .updateReference a = true

variable {policy : Policy} {c c' : Check} {checks checks' : List Check} {answers : Answers}
  {slots : List Reference}

/-- A report that is made twice is one that is made once. -/
theorem revise_revise (policy : Policy) (answers : Answers) (slots : List Reference) (c : Check) :
  c.revise policy answers (c.revise policy answers slots) = c.revise policy answers slots
  := by
  simp only [revise]
  cases c.report.resolve policy.maxReferenceSlots with
  | error e => rfl
  | ok index => apply ReferenceUpdate.report_report

/-- Reports on different slots commute. -/
theorem revise_comm
    (h : c.report.resolve policy.maxReferenceSlots ≠ c'.report.resolve policy.maxReferenceSlots) :
  c'.revise policy answers (c.revise policy answers slots)
    = c.revise policy answers (c'.revise policy answers slots)
  := by
  simp only [revise]
  cases hindex : c.report.resolve policy.maxReferenceSlots with
  | error e => rfl
  | ok index =>
    cases hindex' : c'.report.resolve policy.maxReferenceSlots with
    | error e => rfl
    | ok index' =>
      apply ReferenceUpdate.report_comm
      rintro rfl
      exact h (hindex.trans hindex'.symm)

/-- The order of reports on different slots makes no difference. -/
theorem foldl_revise_perm
    (hdifferent : (checks.map fun c => c.report.resolve policy.maxReferenceSlots).Nodup)
    (hperm : checks'.Perm checks) :
  checks'.foldl (revise policy answers) slots = checks.foldl (revise policy answers) slots
  := by
  apply hperm.foldl_eq'
  intro c hc c' hc' slots
  by_cases hsame : c.report.resolve policy.maxReferenceSlots
      = c'.report.resolve policy.maxReferenceSlots
  · obtain rfl := List.inj_on_of_nodup_map hdifferent (hperm.mem_iff.mp hc) (hperm.mem_iff.mp hc') hsame
    rfl
  · apply revise_comm hsame

/-- One of several reports on different slots that is made once more after them changes nothing: it
might as well have been the last one. -/
theorem revise_foldl_revise
    (hdifferent : (checks.map fun c => c.report.resolve policy.maxReferenceSlots).Nodup)
    (hc : c ∈ checks) :
  c.revise policy answers (checks.foldl (revise policy answers) slots)
    = checks.foldl (revise policy answers) slots
  := by
  obtain ⟨before, after, rfl⟩ := List.append_of_mem hc
  have hlast : (before ++ after ++ [c]).Perm (before ++ c :: after) := by
    apply (List.perm_append_singleton ..).trans
    apply List.perm_middle.symm
  rw [← foldl_revise_perm hdifferent hlast, List.foldl_append]
  apply revise_revise

end Check

namespace World

variable {policy : Policy} {w w' : World} {d : Directory} {id : ApplicationId} {u : ReferenceUpdate}
  {actor : Actor} {a stored : Application} {index : Nat} {slots : List Reference} {c : Check}
  {checks : List Check}

/-- A report on a slot goes through if it tells which slot is meant and comes from somebody who may
make it, and it tells how many slots it has added. -/
theorem perform_check (hindex : u.resolve policy.maxReferenceSlots = .ok index)
    (hfound : w.records.fetch id false = some a)
    (may : (actor.resolvedIn w.directory).mayDo .updateReference a = true) :
  let after := { a with references := u.report index a.answers a.references }.rewritten a
    policy.ttlDays w.clock
  let added := index + 1 - a.references.length
  ∃ slot previous name entry, w.perform (checkReference policy id u actor)
    = (.ok after, (w.write after).enter [checkedEvent after slot index added actor.userId name]
        [checkedEntry after slot added previous actor.userId entry])
  := by
  intro after added
  have hlength : (Reference.ensureSlot a.references index a.answers).length - a.references.length
      = added := by
    rw [Reference.length_ensureSlot]
    omega
  have hslot : (u.apply index (Reference.ensureSlot a.references index a.answers))[index]? = some _ :=
    List.getElem?_eq_getElem (u.lt_length_report index a.answers a.references)
  rw [checkReference, hindex]
  change ∃ slot previous name entry, w.perform (resolve actor >>= _) = _
  rw [perform_resolve_bind, perform_commit_bind (checkChange_amends hindex), hfound]
  simp only [checkChange, perform_requireAccess_bind, may, if_true, perform_pure, hlength, hslot,
    perform_record_log_bind, Actor.resolvedIn_userId]
  exact ⟨_, _, _, _, rfl⟩

/-- A report on a slot goes through only if it tells which slot is meant, there is a record, and
the actor may report on its slots. -/
theorem found_of_check (h : w.perform (checkReference policy id u actor) = (.ok stored, w')) :
  ∃ index a, u.resolve policy.maxReferenceSlots = .ok index
    ∧ w.records.fetch id false = some a
    ∧ (actor.resolvedIn w.directory).mayDo .updateReference a = true
  := by
  rw [checkReference] at h
  cases hindex : u.resolve policy.maxReferenceSlots with
  | error e =>
    rw [hindex] at h
    cases congrArg Prod.fst h
  | ok index =>
    rw [hindex] at h
    change w.perform (resolve actor >>= _) = _ at h
    rw [perform_resolve_bind, perform_commit_bind (checkChange_amends hindex)] at h
    cases hfound : w.records.fetch id false with
    | none =>
      rw [hfound] at h
      cases congrArg Prod.fst h
    | some a =>
      use index, a, rfl, rfl
      by_contra hnot
      simp only [hfound, checkChange, perform_requireAccess_bind, if_neg hnot] at h
      cases congrArg Prod.fst h

/-! ### Reports one after the other -/

/-- That a world knows a directory, and under a name a record of the rescue of an application, with
its answers and with some slots. -/
structure Lists (w : World) (d : Directory) (id : ApplicationId) (a : Application)
    (slots : List Reference) : Prop where
  directory : w.directory = d
  stored : ∃ b, w.records.fetch id false = some b ∧ b.rescueId = a.rescueId ∧ b.answers = a.answers
    ∧ b.references = slots

/-- That a world may have become another one while nobody has touched the slots of an application,
nor what decides on them: its answers, its rescue and the directory. -/
structure Spares (w w' : World) (id : ApplicationId) : Prop where
  directory : w'.directory = w.directory
  stored : ∀ a, w.records.fetch id false = some a →
    ∃ b, w'.records.fetch id false = some b ∧ b.rescueId = a.rescueId ∧ b.answers = a.answers
      ∧ b.references = a.references

/-- That reports on the slots of an application go through one after the other, and what else
happens in between spares the slots. -/
inductive Checked (policy : Policy) (id : ApplicationId) : World → List Check → World → Prop
  | done (w : World) : Checked policy id w [] w
  | meanwhile {w w' w'' : World} {checks : List Check} :
      w.Spares w' id → Checked policy id w' checks w'' → Checked policy id w checks w''
  | check {w w' w'' : World} {c : Check} {checks : List Check} (stored : Application) :
      w.perform (checkReference policy id c.report c.actor) = (.ok stored, w') →
      Checked policy id w' checks w'' → Checked policy id w (c :: checks) w''

theorem Lists.spares {w' : World} (h : w.Lists d id a slots) (hspares : w.Spares w' id) :
  w'.Lists d id a slots
  := by
  obtain ⟨b, hfound, hrescue, hanswers, hslots⟩ := h.stored
  obtain ⟨b', hfound', hrescue', hanswers', hslots'⟩ := hspares.stored b hfound
  constructor
  case directory => rw [hspares.directory, h.directory]
  case stored =>
    exact ⟨b', hfound', hrescue'.trans hrescue, hanswers'.trans hanswers, hslots'.trans hslots⟩

/-- A report that is admitted goes through, leaves the slots revised, and tells how many slots it
has added. -/
theorem Lists.check (h : w.Lists d id a slots) (hadmitted : c.Admitted policy d a) :
  ∃ stored event entry w', w.perform (checkReference policy id c.report c.actor) = (.ok stored, w')
    ∧ w' = (w.write stored).enter [event] [entry]
    ∧ stored.references = c.revise policy a.answers slots
    ∧ w'.Lists d id a (c.revise policy a.answers slots)
    ∧ Dictionary.get? "slots_added" event.metadata
      = some (.nat ((c.revise policy a.answers slots).length - slots.length))
    ∧ entry.details.get? "slots_added"
      = some (.nat ((c.revise policy a.answers slots).length - slots.length))
  := by
  obtain ⟨b, hfound, hrescue, hanswers, rfl⟩ := h.stored
  obtain ⟨⟨index, hindex⟩, may⟩ := hadmitted
  rw [← h.directory, ← Actor.mayDo_updateReference_congr hrescue] at may
  obtain ⟨slot, previous, name, entry, hperform⟩ := perform_check hindex hfound may
  have hrevised : c.revise policy a.answers b.references
      = c.report.report index b.answers b.references := by
    rw [Check.revise, hindex, hanswers]
  have hadded : (c.revise policy a.answers b.references).length - b.references.length
      = index + 1 - b.references.length := by
    rw [hrevised, ReferenceUpdate.report, ReferenceUpdate.length_apply, Reference.length_ensureSlot]
    omega
  generalize hafter : { b with references := c.report.report index b.answers b.references }.rewritten b
    policy.ttlDays w.clock = after at hperform
  obtain ⟨hstored, hdeleted⟩ := Records.fetch_eq_some_iff.mp hfound
  have hname : after.applicationId = id := by
    rw [← hafter, ← Records.applicationId_of_find? hstored]
    rfl
  have hslots : after.references = c.revise policy a.answers b.references := by
    rw [← hafter, hrevised]
    rfl
  refine ⟨after, _, _, _, hperform, rfl, hslots, ?_, ?_, ?_⟩
  · constructor
    case directory => exact h.directory
    case stored =>
      refine ⟨after, ?_, ?_, ?_, hslots⟩
      · rw [enter_records, write_records, Records.fetch_eq_some_iff, Records.find?_replace, if_pos hname,
          hstored]
        rw [← hafter]
        exact ⟨rfl, hdeleted⟩
      · rw [← hafter]
        exact hrescue
      · rw [← hafter]
        exact hanswers
  · rw [hadded]
    apply Dictionary.get?_insert_self
  · rw [hadded]
    rfl

theorem Checked.lists {w' : World} (hchecked : w.Checked policy id checks w')
    (h : w.Lists d id a slots) :
  (∀ c ∈ checks, c.Admitted policy d a)
    ∧ w'.Lists d id a (checks.foldl (Check.revise policy a.answers) slots)
  := by
  induction hchecked generalizing slots with
  | done w => exact ⟨by simp, h⟩
  | meanwhile hspares _ ih => apply ih (h.spares hspares)
  | @check w w' w'' c checks stored hperform _ ih =>
    obtain ⟨b, hfound, hrescue, -⟩ := h.stored
    have hadmitted : c.Admitted policy d a := by
      obtain ⟨index, b', hindex, hfound', may⟩ := found_of_check hperform
      obtain rfl := Option.some.inj (hfound.symm.trans hfound')
      rw [h.directory, Actor.mayDo_updateReference_congr hrescue] at may
      exact ⟨⟨index, hindex⟩, may⟩
    obtain ⟨stored', event, entry, w₁, hperform', -, -, hlists, -⟩ := h.check hadmitted
    obtain rfl : w' = w₁ := congrArg Prod.snd (hperform.symm.trans hperform')
    obtain ⟨hrest, hlists'⟩ := ih hlists
    exact ⟨List.forall_mem_cons.mpr ⟨hadmitted, hrest⟩, hlists'⟩

theorem Lists.exists_checked (h : w.Lists d id a slots)
    (hadmitted : ∀ c ∈ checks, c.Admitted policy d a) :
  ∃ w', w.Checked policy id checks w'
  := by
  induction checks generalizing w slots with
  | nil => exact ⟨w, .done w⟩
  | cons c rest ih =>
    obtain ⟨hfirst, hrest⟩ := List.forall_mem_cons.mp hadmitted
    obtain ⟨stored, event, entry, w', hperform, -, -, hlists, -⟩ := h.check hfirst
    obtain ⟨w'', hchecked⟩ := ih hlists hrest
    exact ⟨w'', .check stored hperform hchecked⟩

end World

/-- Reports on different slots of an application, whether there are such slots yet or not, can be
made in any order: if they go through one after the other, they go through in every other order
from the same world, and however they go through, they leave the same slots.  A report that is
made once more after them leaves the slots as they are, and tells that it has added none. -/
theorem checks_commute {policy : Policy} {id : ApplicationId} {w w' : World} {checks : List Check}
    {a : Application} (hfound : w.records.fetch id false = some a)
    (hchecked : w.Checked policy id checks w')
    (hdifferent : (checks.map fun c => c.report.resolve policy.maxReferenceSlots).Nodup) :
  ∃ b, w'.records.fetch id false = some b
    ∧ (∀ checks', checks'.Perm checks →
        (∃ w'', w.Checked policy id checks' w'')
        ∧ ∀ w'', w.Checked policy id checks' w'' →
          ∃ b', w''.records.fetch id false = some b' ∧ b'.references = b.references)
    ∧ ∀ c ∈ checks, ∃ stored event entry w'',
        w'.perform (checkReference policy id c.report c.actor) = (.ok stored, w'')
        ∧ stored.references = b.references
        ∧ (∃ b', w''.records.fetch id false = some b' ∧ b'.references = b.references)
        ∧ w''.timeline = w'.timeline ++ [event] ∧ w''.audit = w'.audit ++ [entry]
        ∧ Dictionary.get? "slots_added" event.metadata = some (.nat 0)
        ∧ entry.details.get? "slots_added" = some (.nat 0)
  := by
  have hlists : w.Lists w.directory id a a.references := ⟨rfl, a, hfound, rfl, rfl, rfl⟩
  obtain ⟨hadmitted, hlists'⟩ := hchecked.lists hlists
  obtain ⟨b, hfound', hrescue, hanswers, hslots⟩ := hlists'.stored
  refine ⟨b, hfound', ?_, ?_⟩
  · intro checks' hperm
    constructor
    · apply hlists.exists_checked
      intro c hc
      apply hadmitted c (hperm.mem_iff.mp hc)
    · intro w'' hchecked'
      obtain ⟨-, hlists''⟩ := hchecked'.lists hlists
      obtain ⟨b', hfound'', -, -, hslots'⟩ := hlists''.stored
      use b', hfound''
      rw [hslots, hslots', Check.foldl_revise_perm hdifferent hperm]
  · intro c hc
    have hagain : c.revise policy a.answers (checks.foldl (Check.revise policy a.answers) a.references)
        = checks.foldl (Check.revise policy a.answers) a.references :=
      Check.revise_foldl_revise hdifferent hc
    obtain ⟨stored, event, entry, w'', hperform, rfl, hreferences, hagain', hmetadata, hdetails⟩ :=
      hlists'.check (hadmitted c hc)
    rw [hagain, Nat.sub_self] at hmetadata hdetails
    rw [hagain, ← hslots] at hreferences hagain'
    obtain ⟨b', hstored, -, -, hreferences'⟩ := hagain'.stored
    exact ⟨stored, event, entry, _, hperform, hreferences, ⟨b', hstored, hreferences'⟩, rfl, rfl,
      hmetadata, hdetails⟩

/-- Reports of the staff on a slot that is listed and on two that are not. -/
def Demo.reports : List Check :=
  [⟨⟨some "ref-1", none, .verified, some "Knows the dog", none⟩, staff⟩,
   ⟨⟨none, some 4, .contacted, none, none⟩, staff⟩,
   ⟨⟨some "ref-2", some 0, .failed, none, none⟩, staff⟩]

/-- The staff makes them in the one order or the other, and then the second one once more. -/
theorem reports_in_reverse :
  ∃ w' w'' b b' stored w₃,
    Demo.applied.Checked Demo.policy ⟨"app-1"⟩ Demo.reports w'
    ∧ (Demo.reports.map fun c => c.report.resolve Demo.policy.maxReferenceSlots).Nodup
    ∧ Demo.applied.Checked Demo.policy ⟨"app-1"⟩ Demo.reports.reverse w''
    ∧ w'.records.fetch ⟨"app-1"⟩ false = some b ∧ w''.records.fetch ⟨"app-1"⟩ false = some b'
    ∧ b'.references = b.references
    ∧ w'.perform (checkReference Demo.policy ⟨"app-1"⟩ ⟨none, some 4, .contacted, none, none⟩ Demo.staff)
      = (.ok stored, w₃)
    ∧ stored.references = b.references
  := by
  have hrescue : (Demo.applied.records.fetch ⟨"app-1"⟩ false).map Application.rescueId
      = some Demo.rescue := by decide +kernel
  obtain ⟨a, hfound, hrescue⟩ := Option.map_eq_some_iff.mp hrescue
  have hlists : Demo.applied.Lists Demo.directory ⟨"app-1"⟩ a a.references :=
    ⟨by decide +kernel, a, hfound, rfl, rfl, rfl⟩
  have hstaff : Demo.staff.resolvedIn Demo.directory
      = { Demo.staff with rescueId := some Demo.rescue } := by decide +kernel
  have may : (Demo.staff.resolvedIn Demo.directory).mayDo .updateReference a = true := by
    rw [hstaff]
    simp [Actor.mayDo, Actor.sharesRescue, Demo.staff, hrescue]
  have hadmitted : ∀ c ∈ Demo.reports, c.Admitted Demo.policy Demo.directory a := by
    simp only [Demo.reports, List.forall_mem_cons]
    exact ⟨⟨⟨1, by decide +kernel⟩, may⟩, ⟨⟨4, rfl⟩, may⟩, ⟨⟨2, by decide +kernel⟩, may⟩, by simp⟩
  have hdifferent : (Demo.reports.map fun c =>
      c.report.resolve Demo.policy.maxReferenceSlots).Nodup := by decide +kernel
  obtain ⟨w', hchecked⟩ := hlists.exists_checked hadmitted
  obtain ⟨b, hfound', hreordered, hagain⟩ := checks_commute hfound hchecked hdifferent
  obtain ⟨⟨w'', hchecked'⟩, hsame⟩ := hreordered Demo.reports.reverse (List.reverse_perm _)
  obtain ⟨b', hfound'', hreferences⟩ := hsame w'' hchecked'
  obtain ⟨stored, -, -, w₃, hperform, hreferences', -⟩ := hagain
    ⟨⟨none, some 4, .contacted, none, none⟩, Demo.staff⟩ (by simp [Demo.reports])
  exact ⟨w', w'', b, b', stored, w₃, hchecked, hdifferent, hchecked', hfound', hfound'', hreferences,
    hperform, hreferences'⟩

end Rehoming
