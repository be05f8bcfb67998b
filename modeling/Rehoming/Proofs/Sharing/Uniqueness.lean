import Rehoming.Proofs.Sharing.Requests
/-!
# One active application of an applicant for a pet

The check for an active application and the insertion are two calls, between which anything
may happen, and writing a record does not look for a rival again.  Still the store never
holds two active applications of the same applicant for the same pet: the insertion looks
for itself, and no amendment makes an application active that was not.
-/

namespace Rehoming.System

variable {ι : Type} [DecidableEq ι] {policy : Policy} {requests : ι → Request}
  {s : System fun i => (requests i).Reply}

/-- Records stay apart, whatever the clients do. -/
theorem Orderly.unique_move (h : Orderly policy requests s) (hunique : s.world.records.Unique)
    (m : Move ι) :
  (s.move m).world.records.Unique
  := by
  cases m with
  | refit directory questions => exact hunique
  | turn t =>
    cases effect_turn (h.obeys t.client) h.sound with
    | stay hrecords hjournal =>
      rw [System.move, hrecords]
      exact hunique
    | insertion now a hclock hrule hinsert hjournal => exact hunique.insert hinsert
    | update now before a hclock hfound hrule hname hstored hdeleted hrecords hjournal =>
      obtain ⟨user, draft, hcourse, rfl⟩ := Rule.ofAnyone_update hrule
      rw [System.move, hrecords]
      apply hunique.replace
      · rw [← hname] at hstored
        exact hstored
      · exact hcourse.samePair
      · apply hcourse.isActive_of

theorem unique_run {w : Rehoming.World} (hw : w.records = []) (moves : List (Move ι)) :
  ((ofRequests policy requests w).run moves).world.records.Unique
  := by
  have hstart : Orderly policy requests (ofRequests policy requests w)
      ∧ (ofRequests policy requests w).world.records.Unique := by
    use orderly_start w
    rw [ofRequests, start, hw]
    apply List.Pairwise.nil
  apply And.right
  apply run_induction (P := fun s => Orderly policy requests s ∧ s.world.records.Unique) _ hstart
  intro m _ s hs
  exact ⟨hs.1.move m, hs.1.unique_move hs.2 m⟩

/-- An insertion of an active record whose pair has been taken fails: its name is taken, or
else the record would be a duplicate. -/
theorem turn_of_rival (h : Orderly policy requests s) {t : Turn ι} {m : Mutation}
    (hm : requests t.client = .mutation m) {a b : Application}
    {next : (Call.insert a).Answer → Program (Except Refusal (requests t.client).Reply)}
    (hprogram : (s.clients t.client).program = .ask (.insert a) next)
    (hb : b ∈ s.world.records) (hactive : b.isActive = true) (hpair : Records.samePair b a = true) :
  (s.clients t.client).sight.active = some (a.userId, a.petId, none)
  ∧ (s.turn t).world.records = s.world.records
  ∧ ((s.turn t).clients t.client).program = .done (.error
      (if (s.world.records.find? a.applicationId).isSome then .store .conflict
        else .duplicateActiveApplication a.userId a.petId))
  := by
  obtain ⟨active, hseen, herror⟩ := (h.continues t.client).insert hm hprogram
  have hrival : s.world.records.any (fun b => b.isActive && Records.samePair b a) = true := by
    apply List.any_eq_true.mpr
    use b, hb
    rw [hactive, hpair]
    rfl
  use hseen
  rw [turn_eq hprogram]
  -- The store looks at the name before it looks for a rival.
  by_cases htaken : (s.world.records.find? a.applicationId).isSome = true
  · have hinsert : (s.worldAt t).records.insert a = .error .conflict := by
      rw [Records.insert, worldAt, if_pos htaken]
    rw [answer_world, answer_clients_self, World.answer_insert_error hinsert, herror, if_pos htaken]
    exact ⟨rfl, rfl⟩
  · have hinsert : (s.worldAt t).records.insert a
        = .error (.uniqueViolation StoreError.activeConstraint) := by
      rw [Records.insert, worldAt, if_neg htaken, active, hrival]
      rfl
    rw [answer_world, answer_clients_self, World.answer_insert_error hinsert, herror, if_neg htaken]
    exact ⟨rfl, rfl⟩

/-- From an empty store, whatever clients ask for and in whatever order they take their turns,
there is never more than one active application of an applicant for a pet, and that is the one
that is found.  A submission that has found none, but is too late with its insertion, stores
nothing, and is refused as a duplicate unless its fresh name has been taken already. -/
theorem active_application_unique (policy : Policy) (requests : ι → Request) (w : Rehoming.World)
    (moves : List (Move ι)) :
  let s := (ofRequests policy requests { w with records := [] }).run moves
  (∀ user pet, (s.world.records.filter fun a =>
      a.isActive && a.userId == user && a.petId == pet).length ≤ 1)
  ∧ (∀ user pet a, s.world.records.findActive user pet = some a
      ↔ a ∈ s.world.records ∧ a.isActive = true ∧ a.userId = user ∧ a.petId = pet)
  ∧ ∀ (t : Turn ι) (submission : Submission) (actor : Actor),
      requests t.client = .mutation (.submit submission actor) → ∀ a next,
      (s.clients t.client).program = .ask (.insert a) next →
      ∀ b ∈ s.world.records, b.isActive = true → Records.samePair b a = true →
      (s.clients t.client).sight.active = some (a.userId, a.petId, none)
      ∧ (s.turn t).world.records = s.world.records
      ∧ ((s.turn t).clients t.client).program = .done (.error
          (if (s.world.records.find? a.applicationId).isSome then .store .conflict
            else .duplicateActiveApplication a.userId a.petId))
  := by
  intro s
  have hunique : s.world.records.Unique := unique_run rfl moves
  refine ⟨hunique.length_filter_le, fun _ _ _ => hunique.findActive_eq_some_iff, ?_⟩
  intro t submission actor hm a next hprogram b hb hactive hpair
  exact turn_of_rival (orderly_run _ moves) hm hprogram hb hactive hpair

end Rehoming.System

/-! ### Two submissions at once -/

namespace Rehoming.Demo

/-- The adopter applies for the same pet with two clients. -/
def rivals (_ : Fin 2) : Request :=
  .mutation (.submit (submission rufus) adopter)

/-- An order of turns in which both submissions look for an active application before either is
inserted, one turn a second. -/
def race : List (Move (Fin 2)) :=
  let clients : List (Fin 2) := List.replicate 6 0 ++ List.replicate 11 1 ++ [0]
  clients.zipIdx.map fun (client, second) =>
    .turn ⟨client, .ofSeconds second 0,
      { Naming.numbered with application _ := if client = 0 then "late" else "early" }⟩

/-- The submission that comes too late is refused as a duplicate. -/
example :
    let s := (System.ofRequests policy rivals { informalWorld with records := [] }).run race
    s.world.records.map Application.applicationId = [⟨"early"⟩]
    ∧ (match (s.clients 0).program with
      | .done (.error (.duplicateActiveApplication user pet)) => some (user, pet)
      | _ => none) = some (adopter.userId, rufus.petId)
  := by
  decide +kernel

end Rehoming.Demo
