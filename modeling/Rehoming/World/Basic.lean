import Rehoming.Service.Program
import Rehoming.Store.Records
/-!
# The world in memory

The world that the service runs in when everything is kept in memory: a frozen clock, the
stores, and a source of fresh names.  The source numbers what has been stored, so that a name
which was not used in the end is offered once more.
-/

namespace Rehoming

/-- How fresh names look. -/
structure Naming where
  application : Nat → String
  document : Nat → String
  event : Nat → String
  entry : Nat → String

/-- Names that consist of a word and a number. -/
def Naming.numbered : Naming where
  application n := "app-" ++ toString n
  document n := "doc-" ++ toString n
  event n := "event-" ++ toString n
  entry n := "entry-" ++ toString n

/-- Everything that the service can ask for. -/
structure World where
  naming : Naming
  clock : Time.Instant
  records : Records := []
  directory : Directory := {}
  questions : Registry := []
  timeline : List TimelineEvent := []
  audit : List AuditEntry := []
  /-- How many applications have been inserted by the service. -/
  inserted : Nat := 0
  /-- How many documents have been attached by the service. -/
  attached : Nat := 0

namespace World

/-- The next fresh name of a kind. -/
def fresh (w : World) : Fresh → String
  | .application => w.naming.application (w.inserted + 1)
  | .document => w.naming.document (w.attached + 1)
  | .event => w.naming.event (w.timeline.length + 1)
  | .entry => w.naming.entry (w.audit.length + 1)

/-- The events of an application. -/
def eventsOf (w : World) (id : ApplicationId) : List TimelineEvent :=
  w.timeline.filter (·.applicationId == id)

/-- The events of some applications. -/
def eventsOfMany (w : World) (ids : List ApplicationId) : List TimelineEvent :=
  w.timeline.filter fun e => ids.contains e.applicationId

/-- Inserts a record. -/
def insert (w : World) (a : Application) : Except StoreError Application × World :=
  match w.records.insert a with
  | .ok records => (.ok a, { w with records, inserted := w.inserted + 1 })
  | .error e => (.error e, w)

/-- How many documents a record has more than the stored one of its name. -/
def newDocuments (w : World) (a : Application) : Nat :=
  match w.records.find? a.applicationId with
  | some b => a.documents.length - b.documents.length
  | none => 0

/-- Writes a record. -/
def update (w : World) (a : Application) (expected : Nat) : Except StoreError Application × World :=
  match w.records.update a expected with
  | .ok (written, records) =>
    (.ok written, { w with records, attached := w.attached + w.newDocuments a })
  | .error e => (.error e, w)

/-- The answer to a call, and the world after it. -/
def answer : Program.World World
  | .now, w => (w.clock, w)
  | .fresh kind, w => (w.fresh kind, w)
  | .insert a, w => w.insert a
  | .update a expected, w => w.update a expected
  | .fetch id includeDeleted, w => (.ok (w.records.fetch id includeDeleted), w)
  | .findActive user pet, w => (.ok (w.records.findActive user pet), w)
  | .search criteria, w => (.ok (w.records.search criteria), w)
  | .listForRescue rescue, w => (.ok (w.records.ofRescue rescue), w)
  | .findUser id, w => (.ok (w.directory.findUser id), w)
  | .matchingUsers needle, w => (.ok (w.directory.matchingUsers needle), w)
  | .findPet id, w => (.ok (w.directory.findPet id), w)
  | .matchingPets needle, w => (.ok (w.directory.matchingPets needle), w)
  | .findStaffRescue id, w => (.ok (w.directory.findStaffRescue id), w)
  | .questionsForRescue rescue, w => (.ok (w.questions.formOf rescue), w)
  | .record event, w => (.ok (), { w with timeline := w.timeline ++ [event] })
  | .eventsFor id query, w => (.ok (query.apply (w.eventsOf id)), w)
  | .eventsForMany ids, w => (.ok (w.eventsOfMany ids), w)
  | .log entry, w => (.ok (), { w with audit := w.audit ++ [entry] })

/-- Runs an operation of the service. -/
def perform {α : Type} (w : World) (s : Service α) : Except Refusal α × World :=
  s.run.run answer w

end World

end Rehoming
