import Rehoming.Text.Substring
/-!
# Routes

Which paths there are, and what the methods do on them.  A path is compared piece by piece.
Where a piece is a name, a path with a fixed piece in its place is preferred.  A name may be
empty, unless it ends the path.
-/

namespace Rehoming.Http

/-- What a request asks for. -/
inductive Endpoint where
  | submit
  | search
  | batch
  | read
  | edit
  | delete
  | decide
  | withdraw
  | chooseStage
  | checkReference
  | attach
  | timeline
  | timelineStats
  | activity
  | statistics
  | validateAnswers
  | health
  | readiness
  | metrics
  deriving DecidableEq, Repr

/-- A piece of a path. -/
inductive Piece where
  | fixed (s : String)
  | name
  deriving DecidableEq, Repr

/-- A path and what the methods do on it. -/
structure Route where
  pieces : List Piece
  methods : List (String × Endpoint)
  deriving DecidableEq, Repr

/-- A path below that of the service. -/
def below (pieces : List Piece) : List Piece :=
  [.fixed "", .fixed "api", .fixed "v1", .fixed "adoption"] ++ pieces

/-- A path below that of an application. -/
def ofApplication (pieces : List Piece) : List Piece :=
  below ([.fixed "applications", .name] ++ pieces)

/-- All routes. -/
def routes : List Route :=
  [⟨[.fixed "", .fixed "health"], [("GET", .health)]⟩,
   ⟨[.fixed "", .fixed "ready"], [("GET", .readiness)]⟩,
   ⟨[.fixed "", .fixed "metrics"], [("GET", .metrics)]⟩,
   ⟨below [.fixed "applications"], [("POST", .submit)]⟩,
   ⟨below [.fixed "applications", .fixed "search"], [("POST", .search)]⟩,
   ⟨below [.fixed "applications", .fixed "bulk-update"], [("POST", .batch)]⟩,
   ⟨ofApplication [], [("GET", .read), ("PATCH", .edit), ("DELETE", .delete)]⟩,
   ⟨ofApplication [.fixed "status"], [("PUT", .decide)]⟩,
   ⟨ofApplication [.fixed "withdraw"], [("POST", .withdraw)]⟩,
   ⟨ofApplication [.fixed "stage"], [("PUT", .chooseStage)]⟩,
   ⟨ofApplication [.fixed "references"], [("PATCH", .checkReference)]⟩,
   ⟨ofApplication [.fixed "documents"], [("POST", .attach)]⟩,
   ⟨ofApplication [.fixed "timeline"], [("GET", .timeline)]⟩,
   ⟨ofApplication [.fixed "timeline", .fixed "stats"], [("GET", .timelineStats)]⟩,
   ⟨below [.fixed "timeline", .fixed "activity"], [("POST", .activity)]⟩,
   ⟨below [.fixed "statistics"], [("GET", .statistics)]⟩,
   ⟨below [.fixed "rescues", .name, .fixed "answers", .fixed "validate"], [("POST", .validateAnswers)]⟩]

/-- The name in a path, if the path fits the pieces; a path without a name has the empty
one. -/
def matchPieces : List Piece → List String → Option String
  | [], [] => some ""
  | .fixed s :: r, part :: rest => if s = part then matchPieces r rest else none
  | [.name], [part] => if part = "" then none else some part
  | .name :: r, part :: rest => (matchPieces r rest).map fun _ => part
  | _, _ => none

/-- Where a request leads. -/
inductive Destination where
  | notFound
  | methodNotAllowed
  /-- What is asked for, the name in the path, and whether only the head is wanted. -/
  | endpoint (e : Endpoint) (name : String) (headOnly : Bool)
  deriving DecidableEq, Repr

/-- What a method does on a path; the head of whatever can be got can be asked for. -/
def Route.destination (r : Route) (method name : String) : Destination :=
  match r.methods.lookup method with
  | some e => .endpoint e name false
  | none =>
    match method, r.methods.lookup "GET" with
    | "HEAD", some e => .endpoint e name true
    | _, _ => .methodNotAllowed

/-- Where a method and a path lead. -/
def destination (method path : String) : Destination :=
  let parts := Text.split '/' path
  let found := routes.findSome? fun r => (matchPieces r.pieces parts).map fun name => (r, name)
  match found with
  | some (r, name) => r.destination method name
  | none => .notFound

end Rehoming.Http
