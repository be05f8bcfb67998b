import Rehoming.Proofs.Performing.Commit
import Rehoming.Proofs.Performing.Reading
import Rehoming.Proofs.Reference.Slots
import Rehoming.Proofs.Sharing.Requests
/-!
# When a submission goes through

A submission is refused for the first of the reasons against it, and goes through if there is
none: the store never refuses what the service has let through.  What is stored is read back
by its owner, but for a member of the staff who does not belong to the rescue of the pet.
-/

namespace Rehoming

open Service

/-- That an application is as it is submitted: waiting, never written over, without documents,
and with a pending slot for every reference, which has the name of its position. -/
structure Application.IsNew (a : Application) (id : ApplicationId) (user : UserId) (pet : Pet)
    (inputs : List ReferenceInput) : Prop where
  applicationId : a.applicationId = id
  userId : a.userId = user
  petId : a.petId = pet.petId
  rescueId : a.rescueId = pet.rescueId
  status : a.status = .submitted
  version : a.version = 0
  documents : a.documents = []
  deletedAt : a.deletedAt = none
  length : a.references.length = inputs.length
  slots : ∀ i slot, a.references[i]? = some slot →
    slot.id = Reference.slotId i ∧ slot.status = .pending

theorem Submission.isNew (s : Submission) (id : ApplicationId) (user : UserId) (pet : Pet)
    (now : Time.Instant) (ttlDays : Nat) :
  (s.application id user pet.petId pet.rescueId now ttlDays).IsNew id user pet s.references
  := by
  constructor
  case length => exact Reference.length_seedFrom 0 s.references
  case slots =>
    intro i slot hslot
    change (Reference.seedFrom 0 s.references)[i]? = some slot at hslot
    rw [Reference.getElem?_seedFrom, Nat.zero_add] at hslot
    obtain ⟨input, -, rfl⟩ := Option.map_eq_some_iff.mp hslot
    exact ⟨rfl, rfl⟩
  all_goals rfl

/-- The owner of an application may see it, unless the owner comes as a member of the staff of
another rescue, or of none. -/
theorem Actor.mayDo_view_of_owner {actor : Actor} {a : Application} (howner : actor.userId = a.userId) :
  actor.mayDo .view a = true ↔ ¬ (actor.role = .rescueStaff ∧ actor.rescueId ≠ some a.rescueId)
  := by
  cases hrole : actor.role with
  | admin => simp [mayDo, hrole]
  | adopter => simp [mayDo, hrole, Application.isOwnedBy, howner]
  | rescueStaff => simp [mayDo, hrole, sharesRescue]

namespace World

variable {w : World} {policy : Policy} {s : Submission} {actor : Actor}

/-- Everything that speaks against a submission, in the order in which it is said. -/
def obstacles (w : World) (policy : Policy) (s : Submission) (actor : Actor) : List Refusal :=
  (if s.faults policy.maxReferences = [] then [] else [.invalidInput (s.faults policy.maxReferences)])
  ++ (if (w.directory.findUser actor.userId).isSome then [] else [.userNotFound actor.userId])
  ++ match w.directory.findPet s.petId with
    | none => [.petNotFound s.petId]
    | some pet =>
      let rival := ∃ b ∈ w.records, b.isActive = true ∧ b.userId = actor.userId ∧ b.petId = pet.petId
      let errors := (AnswerReport.of (w.questions.formOf pet.rescueId) s.answers).errors
      (if pet.status = .available then [] else [.petUnavailable pet.petId pet.status])
      ++ (if rival then [.duplicateActiveApplication actor.userId pet.petId] else [])
      ++ (if errors = [] then [] else [.answersRefused errors])

/-- An active application of an applicant for a pet is found if and only if there is one. -/
theorem findActive_isNone_iff {records : Records} {user : UserId} {pet : PetId} :
  (records.findActive user pet).isNone = true
    ↔ ¬ ∃ b ∈ records, b.isActive = true ∧ b.userId = user ∧ b.petId = pet
  := by
  simp [Records.findActive]

/-- The record of a submission is drafted if nothing speaks against it; else the first thing
that does is the refusal. -/
theorem drafted_eq :
  w.drafted policy s actor
    = match (w.obstacles policy s actor).head?, w.directory.findPet s.petId with
      | some e, _ => .error e
      | none, none => .error (.petNotFound s.petId)
      | none, some pet =>
        .ok (s.application ⟨w.fresh .application⟩ actor.userId pet.petId pet.rescueId w.clock
          policy.ttlDays, pet.name)
  := by
  rw [drafted, obstacles]
  by_cases hfaults : s.faults policy.maxReferences = []
  case neg => simp [hfaults]
  cases huser : w.directory.findUser actor.userId with
  | none => simp [hfaults]
  | some user =>
    cases hpet : w.directory.findPet s.petId with
    | none => simp [hfaults]
    | some pet =>
      simp only [hfaults, findActive_isNone_iff]
      by_cases available : pet.status = .available
      case neg => simp [available]
      by_cases rival : ∃ b ∈ w.records, b.isActive = true ∧ b.userId = actor.userId ∧ b.petId = pet.petId
      case pos => simp [available, rival]
      by_cases fits : (AnswerReport.of (w.questions.formOf pet.rescueId) s.answers).errors = []
      · simp [available, rival, fits]
      · simp [available, rival, fits]

/-- If nothing speaks against a submission, then the pet is known, and the applicant has no
active application for it. -/
theorem clear_of_obstacles (h : w.obstacles policy s actor = []) :
  ∃ pet, w.directory.findPet s.petId = some pet
    ∧ ∀ b ∈ w.records, b.isActive = true → b.userId = actor.userId → b.petId ≠ pet.petId
  := by
  obtain ⟨-, h⟩ := List.append_eq_nil_iff.mp h
  cases hpet : w.directory.findPet s.petId with
  | none =>
    rw [hpet] at h
    cases h
  | some pet =>
    use pet, rfl
    simp only [hpet, List.append_eq_nil_iff, ite_eq_right_iff, reduceCtorEq, imp_false] at h
    obtain ⟨⟨-, hrival⟩, -⟩ := h
    intro b hb hactive huser hpair
    exact hrival ⟨b, hb, hactive, huser, hpair⟩

/-- The owner reads the newest record in a store, but not as a member of the staff of another
rescue or of none. -/
theorem perform_read_newest {a : Application} (hfree : w.records.find? a.applicationId = none)
    (hdeleted : a.deletedAt = none) {w' : World} (hrecords : w'.records = w.records ++ [a])
    {reader : Actor} (howner : reader.userId = a.userId) (includeDeleted : Bool) :
  (w'.perform (Service.read a.applicationId reader includeDeleted)).1
    = if reader.role = .rescueStaff ∧ (reader.resolvedIn w'.directory).rescueId ≠ some a.rescueId
      then .error (.accessDenied .view (.application a.applicationId))
      else .ok (some a)
  := by
  have hfound : w'.records.fetch a.applicationId (includeDeleted && reader.role == .admin) = some a := by
    apply Records.fetch_eq_some_iff.mpr
    rw [hrecords, Records.find?_append_of_free hfree, if_pos rfl, Application.isDeleted, hdeleted]
    exact ⟨rfl, .inr rfl⟩
  have howner' : (reader.resolvedIn w'.directory).userId = a.userId := by
    rw [Actor.resolvedIn_userId, howner]
  rw [perform_read, hfound]
  simp only [Actor.mayDo_view_of_owner howner', Actor.resolvedIn_role, ite_not]

/-- If nothing speaks against a submission that gets a name that is not taken, then the store
takes the record, which is new, and its owner reads it back, but not as a member of the staff
of another rescue or of none. -/
theorem perform_submit_of_clear (policy : Policy) (w : World) (s : Submission) (actor : Actor)
    (hfresh : w.records.find? ⟨w.fresh .application⟩ = none)
    (hclear : w.obstacles policy s actor = []) :
  ∃ pet a w', w.directory.findPet s.petId = some pet
    ∧ w.perform (submit policy s actor) = (.ok a, w')
    ∧ w'.records = w.records ++ [a]
    ∧ a.IsNew ⟨w.fresh .application⟩ actor.userId pet s.references
    ∧ ∀ reader : Actor, ∀ includeDeleted, reader.userId = a.userId →
        (w'.perform (Service.read a.applicationId reader includeDeleted)).1
          = if reader.role = .rescueStaff ∧ (reader.resolvedIn w.directory).rescueId ≠ some pet.rescueId
            then .error (.accessDenied .view (.application a.applicationId))
            else .ok (some a)
  := by
  obtain ⟨pet, hpet, hrival⟩ := clear_of_obstacles hclear
  have hnew := s.isNew ⟨w.fresh .application⟩ actor.userId pet w.clock policy.ttlDays
  rw [perform_submit, drafted_eq, hclear, hpet]
  simp only [List.head?_nil]
  generalize s.application ⟨w.fresh .application⟩ actor.userId pet.petId pet.rescueId w.clock
    policy.ttlDays = a at hnew ⊢
  have hfree : w.records.find? a.applicationId = none := by rw [hnew.applicationId, hfresh]
  have hinsert : w.records.insert a = .ok (w.records ++ [a]) := by
    apply Records.insert_eq_ok_iff.mpr
    refine ⟨hfree, ?_, rfl⟩
    intro _ b hb hactive
    apply Bool.eq_false_iff.mpr
    intro hpair
    obtain ⟨huser, hsame⟩ := Bool.and_eq_true_iff.mp hpair
    apply hrival b hb hactive
    · rw [eq_of_beq huser, hnew.userId]
    · rw [eq_of_beq hsame, hnew.petId]
  rw [hinsert]
  refine ⟨pet, a, _, rfl, rfl, rfl, hnew, ?_⟩
  intro reader includeDeleted howner
  rw [perform_read_newest hfree hnew.deletedAt rfl howner, hnew.rescueId]
  rfl

end World

/-- A submission that runs alone and gets a name that is not taken is refused for the first
reason that there is, and has changed nothing.  If there is none, then the store takes the
record, and nothing else changes in it.  The record is new, and belongs to the rescue of the
pet.  Its owner reads it back, but not as a member of the staff of another rescue or of none. -/
theorem submissions_decided (policy : Policy) (w : World) (s : Submission) (actor : Actor)
    (hfresh : w.records.find? ⟨w.fresh .application⟩ = none) :
  (∀ e, (w.obstacles policy s actor).head? = some e → w.perform (submit policy s actor) = (.error e, w))
  ∧ (w.obstacles policy s actor = [] → ∃ pet a w', w.directory.findPet s.petId = some pet
      ∧ w.perform (submit policy s actor) = (.ok a, w')
      ∧ w'.records = w.records ++ [a]
      ∧ a.IsNew ⟨w.fresh .application⟩ actor.userId pet s.references
      ∧ ∀ reader : Actor, ∀ includeDeleted, reader.userId = a.userId →
          (w'.perform (Service.read a.applicationId reader includeDeleted)).1
            = if reader.role = .rescueStaff
                ∧ (reader.resolvedIn w.directory).rescueId ≠ some pet.rescueId
              then .error (.accessDenied .view (.application a.applicationId))
              else .ok (some a))
  := by
  constructor
  · intro e hfirst
    rw [World.perform_submit, World.drafted_eq, hfirst]
  · exact World.perform_submit_of_clear policy w s actor hfresh

/-- The adopter applies for a pet and reads the application back. -/
theorem first_submission_decided :
  ∃ a w', Demo.informalWorld.perform (submit Demo.policy (Demo.submission Demo.rufus) Demo.adopter)
      = (.ok a, w')
    ∧ w'.records = Demo.informalWorld.records ++ [a]
    ∧ (w'.perform (Service.read a.applicationId Demo.adopter false)).1 = .ok (some a)
  := by
  obtain ⟨-, hsubmitted⟩ := submissions_decided Demo.policy Demo.informalWorld
    (Demo.submission Demo.rufus) Demo.adopter rfl
  obtain ⟨pet, a, w', -, hperform, hrecords, hnew, hread⟩ := hsubmitted (by decide +kernel)
  use a, w', hperform, hrecords
  rw [hread Demo.adopter false hnew.userId.symm, if_neg]
  rintro ⟨⟨⟩, -⟩

/-- The adopter's account in the part of the staff. -/
def Demo.moonlighter : Actor :=
  { Demo.adopter with role := .rescueStaff }

/-- Somebody of the staff who does not belong to the rescue of a pet applies for it, and may not
read the application back. -/
theorem moonlighter_turned_away :
  Demo.informalWorld.records.Unique
  ∧ Demo.informalWorld.records.find? ⟨Demo.informalWorld.fresh .application⟩ = none
  ∧ ∃ a w', Demo.informalWorld.perform
        (submit Demo.policy (Demo.submission Demo.rufus) Demo.moonlighter) = (.ok a, w')
      ∧ Demo.moonlighter.userId = a.userId
      ∧ (w'.perform (Service.read a.applicationId Demo.moonlighter false)).1
        = .error (.accessDenied .view (.application a.applicationId))
      ∧ (w'.perform (Service.read a.applicationId Demo.moonlighter false)).1 ≠ .ok (some a)
  := by
  obtain ⟨pet, a, w', -, hperform, -, hnew, hread⟩ := World.perform_submit_of_clear
    Demo.policy Demo.informalWorld (Demo.submission Demo.rufus) Demo.moonlighter rfl (by decide +kernel)
  have hdenied := hread Demo.moonlighter false hnew.userId.symm
  have hrescue : (Demo.moonlighter.resolvedIn Demo.informalWorld.directory).rescueId = none := by
    decide +kernel
  rw [hrescue, if_pos ⟨rfl, by rintro ⟨⟩⟩] at hdenied
  refine ⟨List.Pairwise.nil, rfl, a, w', hperform, hnew.userId.symm, hdenied, ?_⟩
  rw [hdenied]
  rintro ⟨⟩

end Rehoming
