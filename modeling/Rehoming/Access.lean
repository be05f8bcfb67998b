import Rehoming.Application.Basic
import Rehoming.Text.Ascii
/-!
# Access

Who may do what.  The applicant alone may change the contents of an application; the staff
of its rescue and the administrators decide on it.  Searches, statistics and batches are
allowed for a rescue as a whole, or for all of them.
-/

namespace Rehoming

/-- The part an actor plays. -/
inductive Role where
  | adopter
  | rescueStaff
  | admin
  deriving DecidableEq, Repr

namespace Role

/-- Every role. -/
def all : List Role := [adopter, rescueStaff, admin]

/-- The written form. -/
def label : Role → String
  | adopter => "adopter"
  | rescueStaff => "rescue_staff"
  | admin => "admin"

/-- The role of a word, white space around it and the case of ASCII letters not counted. -/
def ofWord (s : String) : Except String Role :=
  let word := Text.asciiLowercase (Text.trim s)
  if word = "adopter" then .ok adopter
  else if word = "rescue_staff" ∨ word = "rescue-staff" ∨ word = "staff" then .ok rescueStaff
  else if word = "admin" then .ok admin
  else .error ("unknown actor role '" ++ word ++ "'")

end Role

/-- The status of a word, white space around it and the case of ASCII letters not counted. -/
def Status.ofWord (s : String) : Except String Status :=
  match Status.all.find? fun status => Text.equalIgnoringAsciiCase status.label (Text.trim s) with
  | some status => .ok status
  | none => .error ("unknown application status '" ++ s ++ "'")

/-- Someone who acts; staff may belong to a rescue. -/
structure Actor where
  userId : UserId
  role : Role
  rescueId : Option RescueId
  deriving DecidableEq, Repr

/-- What can be done. -/
inductive Operation where
  | view
  | updateContent
  | changeStatus
  | changeStage
  | withdraw
  | updateReference
  | addDocument
  | delete
  | bulkUpdate
  | search
  | viewStatistics
  deriving DecidableEq, Repr

namespace Operation

/-- Everything that can be done. -/
def all : List Operation :=
  [view, updateContent, changeStatus, changeStage, withdraw, updateReference, addDocument, delete,
   bulkUpdate, search, viewStatistics]

/-- The written form. -/
def label : Operation → String
  | view => "view"
  | updateContent => "update_content"
  | changeStatus => "change_status"
  | changeStage => "change_stage"
  | withdraw => "withdraw"
  | updateReference => "update_reference"
  | addDocument => "add_document"
  | delete => "delete"
  | bulkUpdate => "bulk_update"
  | search => "search"
  | viewStatistics => "view_statistics"

end Operation

namespace Actor

/-- Whether an actor belongs to the rescue of an application. -/
def sharesRescue (actor : Actor) (a : Application) : Bool :=
  actor.rescueId == some a.rescueId

/-- Whether an actor may do something with an application. -/
def mayDo (actor : Actor) (operation : Operation) (a : Application) : Bool :=
  match operation with
  | .updateContent | .withdraw | .addDocument | .delete => a.isOwnedBy actor.userId
  | .view =>
    match actor.role with
    | .admin => true
    | .adopter => a.isOwnedBy actor.userId
    | .rescueStaff => actor.sharesRescue a
  | .changeStatus | .changeStage | .updateReference | .bulkUpdate =>
    match actor.role with
    | .admin => true
    | .rescueStaff => actor.sharesRescue a
    | .adopter => false
  | .search | .viewStatistics => false

/-- Whether an actor may do something for a rescue as a whole, or for all rescues. -/
def mayDoFor (actor : Actor) (operation : Operation) (rescue : Option RescueId) : Bool :=
  match operation with
  | .search | .viewStatistics | .bulkUpdate =>
    match actor.role with
    | .admin => true
    | .adopter => operation == .search
    | .rescueStaff =>
      match rescue, actor.rescueId with
      | some requested, some own => requested == own
      | none, some _ => true
      | _, none => false
  | _ => false

end Actor

end Rehoming
