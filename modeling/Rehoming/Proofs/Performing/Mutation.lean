import Rehoming.Proofs.Performing.Operation
import Rehoming.Proofs.Sharing.Alone
/-!
# What a mutation does alone

A mutation that nobody disturbs either stores one record and returns it, or it is refused and
has changed nothing.  A batch is a mutation after another, each in the world that the one
before it leaves.
-/

namespace Rehoming

/-- That a rule lets somebody write a record at a time, and what is stored of it and where. -/
inductive Rule.Writes (R : Rule) (now : Time.Instant) (records : Records) :
    Application → Records → Prop
  | insertion (a : Application) (later : Records) :
      R.insert now a → records.insert a = .ok later → Writes R now records a later
  | update (before a : Application) :
      R.update now before a → a.applicationId = before.applicationId →
      records.find? before.applicationId = some before → before.isDeleted = false →
      Writes R now records { a with version := before.version + 1 }
        (records.replace { a with version := before.version + 1 })

section Transaction

variable {β : Type} {R : Rule} {reply : Application → β} {p head : Program (Except Refusal β)}
  {σ : Sight}

/-- What has been read off the clock is the time of the world. -/
theorem Sight.permits.clock_after {call : Call} {w : World} (hpermits : σ.permits call)
    (h : ∀ now, σ.clock = some now → w.clock = now) {now : Time.Instant}
    (hnow : (σ.after call (World.answer call w).1).clock = some now) :
  w.clock = now
  := by
  cases call with
  | now => exact Option.some.inj hnow
  | fresh | findActive | findUser | findPet | findStaffRescue | questionsForRescue => exact h now hnow
  | insert | update | fetch | search | listForRescue | matchingUsers | matchingPets | record
  | eventsFor | eventsForMany | log => cases hpermits

/-- A transaction that runs alone is refused and leaves the world as it is, or answers the
record that it writes by its rule. -/
theorem Program.Transacts.run_cases (h : p.Transacts R reply head σ) {w : Rehoming.World}
    (hw : R.worlds w) (hclock : ∀ now, σ.clock = some now → w.clock = now)
    (hsound : σ.Sound w.records) :
  (∃ e, p.run World.answer w = (.error e, w))
  ∨ ∃ stored, (p.run World.answer w).1 = .ok (reply stored)
      ∧ R.Writes w.clock w.records stored (p.run World.answer w).2.records
  := by
  -- A write that comes too late does not happen alone; should it come, the transaction begins
  -- again with what it has learnt forgotten.
  have hforgotten : Sight.Sound {} w.records := by
    rintro id before ⟨⟩
  induction h with
  | refused e => exact .inl ⟨e, rfl⟩
  | @read head call next σ hpermits hnext ih =>
    rw [run_ask, hpermits.world_eq]
    apply ih w hw
    · intro now hnow
      apply hpermits.clock_after hclock hnow
    · apply hsound.after call rfl
  | @fetch head id next hnext ih =>
    rw [run_ask]
    apply ih w hw
    · rintro now ⟨⟩
    · apply hforgotten.after (.fetch id false) rfl
  | @insert head a next σ now hfound hactive active hnow hrule hok herror =>
    obtain rfl := hclock now hnow
    rw [run_ask]
    cases hinsert : w.records.insert a with
    | error e =>
      left
      rw [World.answer_insert_error hinsert, herror]
      exact ⟨_, rfl⟩
    | ok later =>
      right
      rw [World.answer_insert_ok hinsert]
      obtain ⟨hreply, hrecords⟩ := (hok a).run_eq { w with records := later, inserted := w.inserted + 1 }
      use a, hreply
      rw [hrecords]
      apply Rule.Writes.insertion a later hrule hinsert
  | @update head a before next σ now hfound hactive hname hnow hrule hok hlate hagain ih =>
    obtain rfl := hclock now hnow
    rw [run_ask]
    cases hupdate : w.records.update a before.version with
    | error e =>
      rw [World.answer_update_error hupdate]
      apply ih e
      · rintro now ⟨⟩
      · exact hforgotten
    | ok r =>
      obtain ⟨written, later⟩ := r
      right
      obtain ⟨hstored, hdeleted, rfl, rfl⟩ := hsound.find?_of_update hfound hname hupdate
      rw [World.answer_update_ok hupdate]
      obtain ⟨hreply, hrecords⟩ := (hok _).run_eq
        { w with
          records := w.records.replace { a with version := before.version + 1 }
          attached := w.attached + w.newDocuments a }
      use { a with version := before.version + 1 }, hreply
      rw [hrecords]
      apply Rule.Writes.update before a hrule hname hstored hdeleted

end Transaction

/-! ### Mutations -/

/-- What somebody may write with a mutation in a world: what the actor may write, also as
whom the directory makes of it, over the record that is named only. -/
def Mutation.rule (policy : Policy) (m : Mutation) (w : World) : Rule :=
  (Rule.ofActors w.SameOffice policy (m.actor.ActsAs w.SameOffice)).on m.target

/-- A mutation is refused and leaves the world as it is, or answers the record that it
writes. -/
theorem Mutation.perform_cases (policy : Policy) (m : Mutation) (w : World) :
  (∃ e, w.perform (m.service policy) = (.error e, w))
  ∨ ∃ stored, (w.perform (m.service policy)).1 = .ok (m.reply stored)
      ∧ (m.rule policy w).Writes w.clock w.records stored (w.perform (m.service policy)).2.records
  := by
  have htransacts : (m.service policy).run.Transacts (m.rule policy w)
      (fun stored => m.reply stored) (m.service policy).run {} :=
    m.transacts_on fun _ hactor => hactor
  apply htransacts.run_cases
  · exact ⟨rfl, rfl⟩
  · rintro now ⟨⟩
  · rintro id before ⟨⟩

/-! ### Batches -/

/-- What happened to an item of a batch: the world it started in, what became of it, and the
world it left. -/
structure BatchItem where
  id : ApplicationId
  start : World
  outcome : Except Refusal Application
  finish : World

namespace BatchItem

/-- The item, if it succeeded. -/
def success? (item : BatchItem) : Option ApplicationId :=
  match item.outcome with
  | .ok a => some a.applicationId
  | .error _ => none

/-- The item, if it failed. -/
def failure? (item : BatchItem) : Option BatchFailure :=
  match item.outcome with
  | .ok _ => none
  | .error refusal => some ⟨item.id, refusal⟩

end BatchItem

/-- Performs a patch on applications, one after the other. -/
def World.performEach (policy : Policy) (p : Patch) (actor : Actor) (w : World) :
    List ApplicationId → List BatchItem
  | [] => []
  | id :: rest =>
    let (outcome, finish) := w.perform (Service.patchOne policy id p actor)
    ⟨id, w, outcome, finish⟩ :: finish.performEach policy p actor rest

/-- The world after some items of a batch. -/
def World.afterItems (w : World) : List BatchItem → World
  | [] => w
  | item :: rest => item.finish.afterItems rest

section Batch

variable {policy : Policy} {p : Patch} {actor : Actor} {w : World} {item : BatchItem}
  {ids : List ApplicationId}

/-- The items of a batch give its answer, and the last one leaves the world that the batch
leaves. -/
theorem Service.run_patchEach :
  (Service.patchEach policy p actor ids).run World.answer w
    = (⟨(w.performEach policy p actor ids).filterMap BatchItem.success?,
          (w.performEach policy p actor ids).filterMap BatchItem.failure?⟩,
        w.afterItems (w.performEach policy p actor ids))
  := by
  induction ids generalizing w with
  | nil => rfl
  | cons id rest ih =>
    rw [Service.patchEach, Program.bind_eq, Program.run_bind, Program.bind_eq, Program.run_bind, ih,
      World.performEach]
    cases houtcome : ((Service.patchOne policy id p actor).run.run World.answer w).1 with
    | ok a =>
      simp [World.perform, houtcome, List.filterMap_cons, BatchItem.success?, BatchItem.failure?,
        World.afterItems]
    | error e =>
      simp [World.perform, houtcome, List.filterMap_cons, BatchItem.success?, BatchItem.failure?,
        World.afterItems]

/-- A batch is refused before its first item and leaves the world as it is, or it answers
what became of its items. -/
theorem Service.perform_applyBatch (policy : Policy) (b : Batch) (actor : Actor) (w : World) :
  (∃ e, w.perform (applyBatch policy b actor) = (.error e, w))
  ∨ ∃ items, items = w.performEach policy b.updates (actor.resolvedIn w.directory) b.applicationIds
    ∧ w.perform (applyBatch policy b actor)
      = (.ok ⟨items.filterMap BatchItem.success?, items.filterMap BatchItem.failure?⟩,
          w.afterItems items)
  := by
  simp only [applyBatch, World.perform_requireNone_bind, World.perform_resolve_bind,
    World.perform_requireScope_bind, World.perform_lift, run_patchEach]
  split
  · split
    · exact .inr ⟨_, rfl, rfl⟩
    · exact .inl ⟨_, rfl⟩
  · exact .inl ⟨_, rfl⟩

/-- What every item preserves a batch preserves. -/
theorem World.performEach_induction {P : World → Prop} (h : P w)
    (hstep : ∀ id ∈ ids, ∀ w, P w → P (w.perform (Service.patchOne policy id p actor)).2) :
  P (w.afterItems (w.performEach policy p actor ids))
  := by
  induction ids generalizing w with
  | nil => exact h
  | cons id rest ih =>
    rw [World.performEach, World.afterItems]
    apply ih
    · apply hstep id List.mem_cons_self w h
    · intro id' hid'
      apply hstep id' (List.mem_cons_of_mem id hid')

/-- Every item is a patch of one application, performed in the world it started in. -/
theorem World.eq_of_mem_performEach (h : item ∈ w.performEach policy p actor ids) :
  item.start.perform (Service.patchOne policy item.id p actor) = (item.outcome, item.finish)
  := by
  induction ids generalizing w with
  | nil => cases h
  | cons id rest ih =>
    rw [World.performEach] at h
    obtain rfl | h := List.mem_cons.mp h
    · rfl
    · apply ih h

/-- An item that failed leaves the world that it started in. -/
theorem BatchItem.finish_eq {failure : BatchFailure} (h : item ∈ w.performEach policy p actor ids)
    (hfailure : item.failure? = some failure) :
  item.finish = item.start
  := by
  have hperform := World.eq_of_mem_performEach h
  obtain ⟨e, hrefused⟩ | ⟨stored, hreply, -⟩ :=
    (Mutation.patch item.id p actor).perform_cases policy item.start
  · change item.start.perform (Service.patchOne policy item.id p actor) = _ at hrefused
    rw [hperform] at hrefused
    exact congrArg Prod.snd hrefused
  · change (item.start.perform (Service.patchOne policy item.id p actor)).1 = .ok stored at hreply
    rw [hperform] at hreply
    simp only at hreply
    rw [failure?, hreply] at hfailure
    cases hfailure

end Batch

end Rehoming
