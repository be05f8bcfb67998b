import Rehoming.World.Basic
/-!
# Disturbances

A world in memory in which things go wrong as planned.  A fault stands in for the answer to
calls of one method, a limited number of times or always.  A rival writes a record right
before the service does, so that the write of the service comes too late.
-/

namespace Rehoming

/-- The calls that can be made to fail. -/
inductive Method where
  | insert
  | update
  | fetch
  | findActive
  | search
  | listForRescue
  | findUser
  | matchingUsers
  | findPet
  | matchingPets
  | findStaffRescue
  | questionsForRescue
  | record
  | eventsFor
  | eventsForMany
  | log
  deriving DecidableEq, Repr

namespace Method

/-- Every call that can be made to fail. -/
def all : List Method :=
  [insert, update, fetch, findActive, search, listForRescue, findUser, matchingUsers, findPet,
   matchingPets, findStaffRescue, questionsForRescue, record, eventsFor, eventsForMany, log]

/-- The written form: who is called, and for what. -/
def label : Method → String
  | insert => "repository.insert"
  | update => "repository.update"
  | fetch => "repository.fetch"
  | findActive => "repository.find_active"
  | search => "repository.search"
  | listForRescue => "repository.list_for_rescue"
  | findUser => "users.find_user"
  | matchingUsers => "users.matching_users"
  | findPet => "pets.find_pet"
  | matchingPets => "pets.matching_pets"
  | findStaffRescue => "staff.find_staff_rescue"
  | questionsForRescue => "questions.questions_for_rescue"
  | record => "timeline.record"
  | eventsFor => "timeline.events_for"
  | eventsForMany => "timeline.events_for_many"
  | log => "audit.log"

end Method

/-- The method of a call, if it can be made to fail. -/
def Call.method : Call → Option Method
  | .now | .fresh _ => none
  | .insert _ => some .insert
  | .update .. => some .update
  | .fetch .. => some .fetch
  | .findActive .. => some .findActive
  | .search _ => some .search
  | .listForRescue _ => some .listForRescue
  | .findUser _ => some .findUser
  | .matchingUsers _ => some .matchingUsers
  | .findPet _ => some .findPet
  | .matchingPets _ => some .matchingPets
  | .findStaffRescue _ => some .findStaffRescue
  | .questionsForRescue _ => some .questionsForRescue
  | .record _ => some .record
  | .eventsFor .. => some .eventsFor
  | .eventsForMany _ => some .eventsForMany
  | .log _ => some .log

/-- What a call meets instead of its answer. -/
inductive Failure where
  | store (error : StoreError)
  /-- The store does not find what is there; it is unavailable where nothing is looked for. -/
  | miss (reason : String)
  deriving DecidableEq, Repr

/-- A planned failure of the calls of a method. -/
structure Fault where
  method : Method
  failure : Failure
  /-- The failure where only unavailability makes sense. -/
  reason : String
  /-- How many times it still happens, or always. -/
  left : Option Nat
  deriving DecidableEq, Repr

namespace Fault

/-- The failure of a store. -/
def storeError (f : Fault) : StoreError :=
  match f.failure with
  | .store e => e
  | .miss reason => .unavailable reason

/-- What a fault answers to a call; a call that cannot be made to fail is not answered. -/
def answer (f : Fault) : (call : Call) → Option call.Answer
  | .now | .fresh _ => none
  | .insert _ => some (.error f.storeError)
  | .update .. => some (.error f.storeError)
  | .fetch .. => some (.error f.storeError)
  | .findActive .. =>
    match f.failure with
    | .miss _ => some (.ok none)
    | .store _ => some (.error (.unavailable f.reason))
  | .search _ => some (.error f.storeError)
  | .listForRescue _ => some (.error f.storeError)
  | .findUser _ => some (.error f.storeError)
  | .matchingUsers _ => some (.error f.storeError)
  | .findPet _ => some (.error f.storeError)
  | .matchingPets _ => some (.error f.storeError)
  | .findStaffRescue _ => some (.error f.storeError)
  | .questionsForRescue _ => some (.error f.storeError)
  | .record _ => some (.error (.unavailable f.reason))
  | .eventsFor .. => some (.error (.unavailable f.reason))
  | .eventsForMany _ => some (.error (.unavailable f.reason))
  | .log _ => some (.error (.unavailable f.reason))

/-- The first fault of a method that still happens, and the faults after it has. -/
def take (m : Method) : List Fault → Option (Fault × List Fault)
  | [] => none
  | f :: r =>
    if f.method = m ∧ f.left ≠ some 0 then some (f, { f with left := f.left.map (· - 1) } :: r)
    else (take m r).map fun (g, r) => (g, f :: r)

end Fault

/-- A world with the disturbances that are still to come. -/
structure DisturbedWorld where
  world : World
  faults : List Fault := []
  /-- What rivals make of the record that the service is about to write. -/
  rivals : List (Application → Application) := []

namespace DisturbedWorld

/-- Lets the next rival write its version of a record. -/
def rival (d : DisturbedWorld) (id : ApplicationId) : DisturbedWorld :=
  match d.rivals, d.world.records.find? id with
  | change :: rest, some current =>
    match d.world.records.update (change current) current.version with
    | .ok (_, records) => { d with world := { d.world with records }, rivals := rest }
    | .error _ => { d with rivals := rest }
  | _ :: rest, none => { d with rivals := rest }
  | [], _ => d

/-- The disturbances that come before a call is answered. -/
def beforehand (d : DisturbedWorld) : Call → DisturbedWorld
  | .update a _ => d.rival a.applicationId
  | _ => d

/-- The fault that stands in for the answer to a call, and the faults after it. -/
def fault? (d : DisturbedWorld) (call : Call) : Option (call.Answer × List Fault) := do
  let m ← call.method
  let (f, faults) ← Fault.take m d.faults
  let answer ← f.answer call
  return (answer, faults)

/-- The answer to a call, and the world after it. -/
def answer : Program.World DisturbedWorld := fun call d =>
  match d.fault? call with
  | some (a, faults) => (a, { d with faults })
  | none =>
    let d := d.beforehand call
    let (a, world) := World.answer call d.world
    (a, { d with world })

/-- Runs a program among disturbances. -/
def perform {α : Type} (d : DisturbedWorld) (p : Program α) : α × DisturbedWorld :=
  p.run answer d

end DisturbedWorld

end Rehoming
