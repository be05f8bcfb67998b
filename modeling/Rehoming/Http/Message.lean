import Rehoming.Http.Media
import Rehoming.Http.Target
import Rehoming.Json.Basic
import Rehoming.Text.Ascii
import Rehoming.Text.Blank
/-!
# Requests and responses

The messages of HTTP, as far as the service looks at them.  Only parts of the right form make
a request.
-/

namespace Rehoming.Http

/-- A request. -/
structure Request where
  method : String
  target : Target
  headers : List (String × String)
  /-- Bodies are texts: those that are not UTF-8 are left out. -/
  body : Option String
  deriving DecidableEq, Repr

/-- Whether a character may be sent in the value of a header: no control character but the
tab. -/
def isValueChar (c : Char) : Bool :=
  c = '\t' || (0x20 ≤ c.toNat && c.toNat ≠ 0x7F)

/-- Whether a name and a value make a header. -/
def isHeader (name value : String) : Bool :=
  isToken name && value.toList.all isValueChar

/-- The request of a method, a path with a query, headers and a body, if they make one. -/
def Request.ofParts? (method path : String) (headers : List (String × String))
    (body : Option String) : Option Request :=
  if isToken method && headers.all fun (name, value) => isHeader name value then
    (Target.ofText? path).map fun target => { method, target, headers, body }
  else none

/-- A response.  Bodies that are no JSON are left out. -/
structure Response where
  status : Nat
  body : Option Json := none

/-- Whether a character may stand in the text of a header. -/
def isHeaderChar (c : Char) : Bool :=
  (0x20 ≤ c.toNat && c.toNat < 0x7F) || c = '\t'

/-- The first value of a header, if it is plain text. -/
def Request.header? (r : Request) (name : String) : Option String :=
  ((r.headers.find? fun h => Text.asciiLowercase h.1 = name).map Prod.snd).filter fun value =>
    value.toList.all isHeaderChar

/-- The first value of a header, trimmed, if it is plain text and not blank. -/
def Request.trimmedHeader? (r : Request) (name : String) : Option String :=
  Text.nonBlank (r.header? name)

end Rehoming.Http
