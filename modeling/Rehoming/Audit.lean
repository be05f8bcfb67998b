import Rehoming.Ids
import Rehoming.Json.Basic
import Rehoming.Time.Instant
/-!
# The audit log

The record of who did what, kept apart from the timeline and never changed.
-/

namespace Rehoming

/-- What was done. -/
inductive AuditAction where
  | create
  | applicationUpdated
  | applicationStatusUpdated
  | withdraw
  | documentUpload
  | referenceUpdate
  | bulkUpdate
  | delete
  deriving DecidableEq, Repr

namespace AuditAction

/-- Everything that can be done. -/
def all : List AuditAction :=
  [create, applicationUpdated, applicationStatusUpdated, withdraw, documentUpload, referenceUpdate,
   bulkUpdate, delete]

/-- The written form. -/
def label : AuditAction → String
  | create => "CREATE"
  | applicationUpdated => "APPLICATION_UPDATED"
  | applicationStatusUpdated => "APPLICATION_STATUS_UPDATED"
  | withdraw => "WITHDRAW"
  | documentUpload => "DOCUMENT_UPLOAD"
  | referenceUpdate => "REFERENCE_UPDATE"
  | bulkUpdate => "BULK_UPDATE"
  | delete => "DELETE"

end AuditAction

/-- An entry of the audit log. -/
structure AuditEntry where
  id : String
  action : AuditAction
  entity : String
  entityId : String
  userId : UserId
  details : Json
  createdAt : Time.Instant

namespace AuditEntry

/-- An entry about an application. -/
def aboutApplication (id : String) (action : AuditAction) (application : ApplicationId) (user : UserId)
    (details : Json) (now : Time.Instant) : AuditEntry where
  id
  action
  entity := "Application"
  entityId := application.text
  userId := user
  details
  createdAt := now

end AuditEntry

end Rehoming
