import Rehoming.FieldError
import Rehoming.Text.Blank
import Rehoming.Time.Instant
/-!
# Documents

Files that an applicant has put into storage, as an application remembers them.
-/

namespace Rehoming

/-- A file that belongs to an application. -/
structure Document where
  documentId : String
  documentType : String
  fileName : String
  fileUrl : String
  uploadedAt : Time.Instant
  verified : Bool
  deriving DecidableEq, Repr

/-- A file to be attached to an application. -/
structure Upload where
  documentType : String
  fileName : String
  fileUrl : String
  deriving DecidableEq, Repr

namespace Upload

/-- The fault of a field that is blank. -/
def blankField (field value : String) : List FieldError :=
  if Text.isBlank value then [⟨field, field ++ " is required", FieldError.missingCode⟩] else []

/-- The faults of an upload. -/
def faults (u : Upload) : List FieldError :=
  blankField "document_type" u.documentType ++ blankField "file_name" u.fileName
    ++ blankField "file_url" u.fileUrl

/-- The document of an upload, not verified yet. -/
def document (u : Upload) (id : String) (now : Time.Instant) : Document where
  documentId := id
  documentType := Text.trim u.documentType
  fileName := Text.trim u.fileName
  fileUrl := Text.trim u.fileUrl
  uploadedAt := now
  verified := false

end Upload

end Rehoming
