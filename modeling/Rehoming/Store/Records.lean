import Rehoming.Search.Criteria
import Rehoming.Store.Error
/-!
# The store of applications

Records under their names.  A record is inserted once, and not if it is active and its
applicant has an active application for the same pet already.  It is replaced only by a
writer who has read its latest version, and every replacement raises the version by one.
-/

namespace Rehoming

/-- The stored applications, in the order in which they were inserted. -/
abbrev Records := List Application

namespace Records

/-- The record of a name, deleted or not. -/
def find? (records : Records) (id : ApplicationId) : Option Application :=
  List.find? (fun a => a.applicationId = id) records

/-- Whether two applications are of the same applicant for the same pet. -/
def samePair (a b : Application) : Bool :=
  a.userId == b.userId && a.petId == b.petId

/-- The store with one more record. -/
def insert (records : Records) (a : Application) : Except StoreError Records :=
  if (records.find? a.applicationId).isSome then .error .conflict
  else if a.isActive && records.any (fun b => b.isActive && samePair b a) then
    .error (.uniqueViolation StoreError.activeConstraint)
  else .ok (records ++ [a])

/-- The store with a record in the place of the one of the same name. -/
def replace (records : Records) (a : Application) : Records :=
  records.map fun b => if b.applicationId = a.applicationId then a else b

/-- The record as it is written, and the store that holds it, if the record stored has the
version that the writer expects. -/
def update (records : Records) (a : Application) (expected : Nat) :
    Except StoreError (Application × Records) :=
  match records.find? a.applicationId with
  | none => .error .notFound
  | some current =>
    if current.version = expected then
      let written := { a with version := expected + 1 }
      .ok (written, records.replace written)
    else .error (.staleWrite expected current.version)

/-- The record of a name; a deleted one only if it is asked for. -/
def fetch (records : Records) (id : ApplicationId) (includeDeleted : Bool) : Option Application :=
  (records.find? id).filter fun a => includeDeleted || !a.isDeleted

/-- An active application of an applicant for a pet. -/
def findActive (records : Records) (user : UserId) (pet : PetId) : Option Application :=
  List.find? (fun a => a.isActive && a.userId == user && a.petId == pet) records

/-- The page of a search. -/
def search (records : Records) (c : Criteria) : SearchPage :=
  c.pageOf records

/-- The records that are not deleted, of one rescue or of all. -/
def ofRescue (records : Records) (rescue : Option RescueId) : List Application :=
  records.filter fun a => !a.isDeleted && Filters.admits rescue (· == a.rescueId)

end Records

end Rehoming
