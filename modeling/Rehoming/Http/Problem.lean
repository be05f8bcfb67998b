import Rehoming.LogFilter
import Rehoming.Service.Refusal
import Rehoming.Settings.Basic
import Rehoming.Wire.Report
/-!
# Problems

Whatever can make the program fail, with the words for it, the status of the response that
reports it, and the document in that response.  A problem always has a reason, and its words
are those of the reason, after a few that tell where it comes from.
-/

namespace Rehoming

/-- What the program fails with. -/
inductive Problem where
  | settings (error : SettingsError)
  | logFilter (text : String)
  | inputOutput (reason : String)
  | server (reason : String)
  | refusal (refusal : Refusal)
  deriving DecidableEq, Repr

/-- The status of a kind of refusals. -/
def RefusalKind.httpStatus : RefusalKind → Nat
  | notFound => 404
  | conflict => 409
  | accessDenied => 403
  | validationFailed => 422
  | storeFailure => 500

namespace Problem

/-- The words of the reason. -/
def reason : Problem → String
  | settings error => error.message
  | logFilter text => "invalid log level/filter '" ++ text ++ "': unable to build EnvFilter"
  | inputOutput reason | server reason => reason
  | refusal r => r.message

/-- Where a problem comes from; a refusal speaks for itself. -/
def origin : Problem → String
  | settings _ => "configuration error: "
  | logFilter _ => "telemetry error: "
  | inputOutput _ => "io error: "
  | server _ => "server error: "
  | refusal _ => ""

/-- The words for a problem. -/
def message (p : Problem) : String :=
  p.origin ++ p.reason

/-- The status of the response that reports a problem. -/
def status : Problem → Nat
  | refusal r => r.kind.httpStatus
  | _ => 500

/-- The document that reports a problem.  A refusal tells its kind, and the refused fields if
there are any. -/
def document (p : Problem) : Json :=
  match p with
  | refusal r =>
    .obj ([("error", .str p.message), ("kind", .str r.kind.label)]
      ++ (if r.fields.isEmpty then [] else [("fields", FieldError.listToJson r.fields)]))
  | _ => .obj [("error", .str p.message)]

end Problem

/-- The problem that no filter for the log can be used. -/
def LogFilter.problem? (preferred : Option String) (fallback : String) : Option Problem :=
  if isAvailable preferred fallback then none else some (.logFilter fallback)

end Rehoming
