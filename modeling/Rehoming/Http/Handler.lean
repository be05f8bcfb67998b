import Rehoming.Http.Media
import Rehoming.Http.Message
import Rehoming.Http.Problem
import Rehoming.Http.Route
import Rehoming.Http.Target
import Rehoming.Json.Reader
import Rehoming.Service.Batch
import Rehoming.Service.Check
import Rehoming.Service.Edit
import Rehoming.Service.Read
import Rehoming.Service.Submit
import Rehoming.Wire.Report
import Rehoming.Wire.Request
import Rehoming.Wire.Search
import Rehoming.Wire.Timeline
/-!
# Answering requests

Every request leads to an operation of the service.  Who acts is told by headers, and checked
before anything else; then come the name in the path, the query and the body.  What can be
wrong with a request has a status of its own, and refusals of the service have one for each
kind.
-/

namespace Rehoming.Http

/-- A part of a request, or the response to a request in which it is wrong. -/
abbrev Part (α : Type) := Except Response α

/-- The response to a request that the service refuses. -/
def refused (r : Refusal) : Response :=
  ⟨(Problem.refusal r).status, some (Problem.refusal r).document⟩

/-- Who acts, by the headers of a request. -/
def actorOf (r : Request) : Except String Actor := do
  let some user := r.trimmedHeader? "x-actor-id" | throw "missing x-actor-id header"
  let role ← match r.trimmedHeader? "x-actor-role" with
    | some word => Role.ofWord word
    | none => pure .adopter
  return ⟨⟨user⟩, role, none⟩

/-- Who acts, or the response to a request that does not tell. -/
def actorPart (r : Request) : Part Actor :=
  match actorOf r with
  | .ok actor => .ok actor
  | .error message => .error ⟨401, some (.obj [("error", .str message)])⟩

/-- The name in a path. -/
def namePart (name : String) : Part String :=
  match pathText? name with
  | some s => .ok s
  | none => .error ⟨400, none⟩

/-- How long a body may be, in bytes. -/
def bodyLimit : Nat := 2 * 1024 * 1024

/-- The document of a body. -/
def bodyPart {α : Type} (d : Json.Decoder α) (r : Request) : Part α :=
  let body := r.body.getD ""
  if !(r.header? "content-type").any announcesJson then .error ⟨415, none⟩
  else if bodyLimit < body.utf8ByteSize then .error ⟨413, none⟩
  else
    match d (Json.ofText body) with
    | .ok a => .ok a
    | .error .unreadable => .error ⟨400, none⟩
    | .error .mismatched => .error ⟨422, none⟩

/-- A value of a query. -/
def queryPart {α : Type} (query name : String) (read : String → Option α) : Part (Option α) :=
  match (single? (formPairs query) name).bind (readValue? read) with
  | .ok a => .ok a
  | .error () => .error ⟨400, none⟩

/-- The kinds of events of a list with commas. -/
def eventTypes : List String → Except Refusal (List EventType)
  | [] => .ok []
  | part :: rest =>
    let word := Text.trim part
    if word = "" then eventTypes rest
    else
      match EventType.ofJson (.str word) with
      | .error _ =>
        .error (.invalidInput
          [⟨"event_types", "unknown timeline event type '" ++ word ++ "'", FieldError.optionCode⟩])
      | .ok t =>
        match eventTypes rest with
        | .ok l => .ok (t :: l)
        | .error e => .error e

/-- The kinds of events of a text, or of none. -/
def eventTypesOf : Option String → Except Refusal (List EventType)
  | none => .ok []
  | some s => eventTypes (Text.split ',' s)

/-- The written form of the body of a search. -/
def searchShape : Json.Shape (Filters × SearchOptions) :=
  Prod.mk <$> .default "filters" Filters.ofJson {}
    <*> .default "options" SearchOptions.shape.decode {}

/-- The written form of the body of a question after activity. -/
def activityShape : Json.Shape (List ApplicationId) :=
  id <$> .required "application_ids" (Json.Decoder.list ApplicationId.ofJson)

/-- The response to what an operation returns. -/
def respond {α : Type} (status : Nat) (body : α → Json) (s : Service α) : Program Response := do
  match ← s.run with
  | .ok a => return ⟨status, some (body a)⟩
  | .error r => return refused r

/-- The response to a request for an application, which may be missing. -/
def respondFound (id : String) (s : Service (Option Application)) : Program Response := do
  match ← s.run with
  | .ok (some a) => return ⟨200, some a.toJson⟩
  | .ok none =>
    return ⟨404, some (.obj
      [("error", .str ("application '" ++ id ++ "' not found")), ("kind", .str "not_found")])⟩
  | .error r => return refused r

/-- The response to a deletion. -/
def respondGone (s : Service Unit) : Program Response := do
  match ← s.run with
  | .ok () => return ⟨204, none⟩
  | .error r => return refused r

/-- Goes on with a part of a request, or ends with the response to its fault. -/
def withPart {α : Type} (p : Part α) (next : α → Program Response) : Program Response :=
  match p with
  | .ok a => next a
  | .error r => .done r

/-- Goes on with the body of a request. -/
def withBody {α : Type} (d : Json.Decoder α) (r : Request) (next : α → Program Response) :
    Program Response :=
  withPart (bodyPart d r) next

/-- The response to a request for one application. -/
def answerFor (policy : Policy) (e : Endpoint) (r : Request) (query name : String) (actor : Actor) :
    Program Response :=
  let id : ApplicationId := ⟨name⟩
  match e with
  | .read =>
    withPart (queryPart query "include_deleted" truth?) fun deleted =>
      respondFound name (Service.read id actor (deleted.getD false))
  | .edit =>
    withBody Edit.shape.decode r fun edit =>
      respond 200 Application.toJson (Service.edit policy id edit actor)
  | .delete => respondGone (Service.delete policy id actor)
  | .decide =>
    withBody Decision.shape.decode r fun decision =>
      respond 200 Application.toJson (Service.decideStatus policy id decision actor)
  | .withdraw =>
    let withdrawal := match bodyPart Withdrawal.shape.decode r with
      | .ok w => w
      | .error _ => ⟨none⟩
    respond 200 Application.toJson (Service.withdraw policy id withdrawal actor)
  | .chooseStage =>
    withBody StageChoice.shape.decode r fun choice =>
      respond 200 Application.toJson (Service.chooseStage policy id choice actor)
  | .checkReference =>
    withBody ReferenceUpdate.shape.decode r fun update =>
      respond 200 Application.toJson (Service.checkReference policy id update actor)
  | .attach =>
    withBody Upload.shape.decode r fun upload =>
      respond 201 Application.toJson (Service.attach policy id upload actor)
  | .timeline =>
    withPart (queryPart query "event_types" some) fun types =>
    withPart (queryPart query "limit" (Number.numeral? (Number.wordLimit 64))) fun limit =>
    withPart (queryPart query "offset" (Number.numeral? (Number.wordLimit 64))) fun offset =>
      match eventTypesOf types with
      | .error refusal => .done (refused refusal)
      | .ok eventTypes =>
        respond 200 (fun events => .arr (events.map TimelineEvent.toJson))
          (Service.timeline id { eventTypes, limit, offset } actor)
  | .timelineStats => respond 200 TimelineStats.toJson (Service.timelineStats id actor)
  | .validateAnswers =>
    withBody Answers.ofJson r fun answers =>
      respond 200 AnswerReport.toJson (Service.reportOn ⟨name⟩ answers)
  | _ => .done ⟨404, none⟩

/-- The response to a request of an actor. -/
def answerTo (policy : Policy) (e : Endpoint) (r : Request) (query name : String) (actor : Actor) :
    Program Response :=
  match e with
  | .submit =>
    withBody Submission.shape.decode r fun submission =>
      respond 201 Application.toJson (Service.submit policy submission actor)
  | .search =>
    withBody searchShape.decode r fun (filters, options) =>
      respond 200 SearchResult.toJson (Service.search policy filters options actor)
  | .batch =>
    withBody Batch.shape.decode r fun batch =>
      respond 200 BatchResult.toJson (Service.applyBatch policy batch actor)
  | .activity =>
    withBody activityShape.decode r fun ids =>
      respond 200 ActivitySummary.manyToJson (Service.activity ids actor)
  | .statistics =>
    withPart (queryPart query "rescue_id" some) fun rescue =>
      respond 200 Statistics.toJson (Service.statistics (rescue.map RescueId.mk) actor)
  | e => withPart (namePart name) fun name => answerFor policy e r query name actor

/-- The response to a request to an endpoint; `ready` tells whether the service has come
up. -/
def answerAt (policy : Policy) (ready : Bool) (e : Endpoint) (r : Request) (query name : String) :
    Program Response :=
  match e with
  | .health => .done ⟨200, some (.obj [("status", .str "ok")])⟩
  | .readiness =>
    .done (if ready then ⟨200, some (.obj [("status", .str "ready")])⟩
      else ⟨503, some (.obj [("status", .str "initializing")])⟩)
  | .metrics => .done ⟨200, none⟩
  | e => withPart (actorPart r) fun actor => answerTo policy e r query name actor

/-- The response to a request. -/
def handle (policy : Policy) (ready : Bool) (r : Request) : Program Response :=
  match destination r.method r.target.path with
  | .notFound => .done ⟨404, none⟩
  | .methodNotAllowed => .done ⟨405, none⟩
  | .endpoint e name headOnly => do
    let response ← answerAt policy ready e r r.target.query name
    return if headOnly then { response with body := none } else response

end Rehoming.Http
