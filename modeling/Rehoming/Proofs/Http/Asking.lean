import Rehoming.Http.Handler
import Rehoming.Proofs.Service.Looking
/-!
# What requests over HTTP ask for

A request over HTTP asks the service for one thing at most, and says so with its method, its
path, its query, its headers and its body.  The response is made of what the service returns,
and is a success if the service does what it is asked for.  Requests that ask for nothing are
answered without the service.
-/

namespace Rehoming.Http

/-! ### Asking -/

/-- What an actor asks for with a request about one application. -/
def askedFor (e : Endpoint) (r : Request) (query name : String) (actor : Actor) :
    Option Rehoming.Request :=
  let id : ApplicationId := ⟨name⟩
  match e with
  | .read => do
    let deleted ← (queryPart query "include_deleted" truth?).toOption
    return .read id actor (deleted.getD false)
  | .edit => do
    let edit ← (bodyPart Edit.shape.decode r).toOption
    return .mutation (.edit id edit actor)
  | .delete => some (.mutation (.delete id actor))
  | .decide => do
    let decision ← (bodyPart Decision.shape.decode r).toOption
    return .mutation (.decide id decision actor)
  | .withdraw =>
    let withdrawal := (bodyPart Withdrawal.shape.decode r).toOption.getD ⟨none⟩
    some (.mutation (.withdraw id withdrawal actor))
  | .chooseStage => do
    let choice ← (bodyPart StageChoice.shape.decode r).toOption
    return .mutation (.chooseStage id choice actor)
  | .checkReference => do
    let update ← (bodyPart ReferenceUpdate.shape.decode r).toOption
    return .mutation (.check id update actor)
  | .attach => do
    let upload ← (bodyPart Upload.shape.decode r).toOption
    return .mutation (.attach id upload actor)
  | .timeline => do
    let types ← (queryPart query "event_types" some).toOption
    let limit ← (queryPart query "limit" (Number.numeral? (Number.wordLimit 64))).toOption
    let offset ← (queryPart query "offset" (Number.numeral? (Number.wordLimit 64))).toOption
    let eventTypes ← (eventTypesOf types).toOption
    return .timeline id { eventTypes, limit, offset } actor
  | .timelineStats => some (.timelineStats id actor)
  | .validateAnswers => do
    let answers ← (bodyPart Answers.ofJson r).toOption
    return .report ⟨name⟩ answers
  | _ => none

/-- What an actor asks for with a request. -/
def askedBy (e : Endpoint) (r : Request) (query name : String) (actor : Actor) :
    Option Rehoming.Request :=
  match e with
  | .submit => do
    let submission ← (bodyPart Submission.shape.decode r).toOption
    return .mutation (.submit submission actor)
  | .search => do
    let (filters, options) ← (bodyPart searchShape.decode r).toOption
    return .search filters options actor
  | .batch => do
    let batch ← (bodyPart Batch.shape.decode r).toOption
    return .batch batch actor
  | .activity => do
    let ids ← (bodyPart activityShape.decode r).toOption
    return .activity ids actor
  | .statistics => do
    let rescue ← (queryPart query "rescue_id" some).toOption
    return .statistics (rescue.map RescueId.mk) actor
  | e => do
    let name ← (namePart name).toOption
    askedFor e r query name actor

/-- What is asked for with a request to an endpoint, by the actor that its headers tell. -/
def askedAt (e : Endpoint) (r : Request) (query name : String) : Option Rehoming.Request :=
  match e with
  | .health | .readiness | .metrics => none
  | e => do
    let actor ← (actorPart r).toOption
    askedBy e r query name actor

/-- What is asked for with a request. -/
def asked (r : Request) : Option Rehoming.Request :=
  match destination r.method r.target.path with
  | .notFound | .methodNotAllowed => none
  | .endpoint e name _ => askedAt e r r.target.query name

/-! ### Serving -/

/-- Whether a response reports a success. -/
def Response.isSuccess (r : Response) : Bool :=
  200 ≤ r.status && r.status ≤ 299

/-- That a program gives the response to what is asked for: it is a response at once if nothing
is asked for, and else made of what the service returns, and a success if the service has done
something. -/
inductive Serves (policy : Policy) : Option Rehoming.Request → Program Response → Prop
  | atOnce (response : Response) : Serves policy none (.done response)
  | byService (q : Rehoming.Request) (next : Except Refusal q.Reply → Program Response) :
      (∀ e, ∃ response, next (.error e) = .done response) →
      (∀ a, ∃ response, next (.ok a) = .done response
        ∧ (q.isLook = true ∨ response.isSuccess = true)) →
      Serves policy (some q) ((q.service policy).run.bind next)

variable {policy : Policy}

theorem serves_withPart {α : Type} {p : Part α} {ask : α → Option Rehoming.Request}
    {next : α → Program Response} (h : ∀ a, Serves policy (ask a) (next a)) :
  Serves policy (p.toOption >>= ask) (withPart p next)
  := by
  cases p with
  | ok a => exact h a
  | error response => exact .atOnce response

theorem serves_respond (q : Rehoming.Request) {status : Nat} {body : q.Reply → Json}
    (hstatus : Response.isSuccess ⟨status, none⟩ = true) :
  Serves policy (some q) (respond status body (q.service policy))
  := by
  apply Serves.byService q
  · intro e
    exact ⟨refused e, rfl⟩
  · intro a
    exact ⟨⟨status, some (body a)⟩, rfl, .inr hstatus⟩

theorem serves_respondFound (id : ApplicationId) (actor : Actor) (includeDeleted : Bool) :
  Serves policy (some (.read id actor includeDeleted))
    (respondFound id.text (Service.read id actor includeDeleted))
  := by
  apply Serves.byService (.read id actor includeDeleted)
  · intro e
    exact ⟨refused e, rfl⟩
  · rintro (_ | a)
    · exact ⟨_, rfl, .inl rfl⟩
    · exact ⟨_, rfl, .inl rfl⟩

theorem serves_respondGone (id : ApplicationId) (actor : Actor) :
  Serves policy (some (.mutation (.delete id actor))) (respondGone (Service.delete policy id actor))
  := by
  apply Serves.byService (.mutation (.delete id actor))
  · intro e
    exact ⟨refused e, rfl⟩
  · rintro ⟨⟩
    exact ⟨⟨204, none⟩, rfl, .inr rfl⟩

theorem serves_answerFor (e : Endpoint) (r : Request) (query name : String) (actor : Actor) :
  Serves policy (askedFor e r query name actor) (answerFor policy e r query name actor)
  := by
  cases e with
  | read =>
    apply serves_withPart
    intro deleted
    apply serves_respondFound
  | edit =>
    apply serves_withPart
    intro edit
    apply serves_respond (.mutation (.edit ⟨name⟩ edit actor)) rfl
  | delete => apply serves_respondGone
  | decide =>
    apply serves_withPart
    intro decision
    apply serves_respond (.mutation (.decide ⟨name⟩ decision actor)) rfl
  | withdraw =>
    simp only [askedFor, answerFor]
    cases bodyPart Withdrawal.shape.decode r with
    | ok w => apply serves_respond (.mutation (.withdraw ⟨name⟩ w actor)) rfl
    | error response => apply serves_respond (.mutation (.withdraw ⟨name⟩ ⟨none⟩ actor)) rfl
  | chooseStage =>
    apply serves_withPart
    intro choice
    apply serves_respond (.mutation (.chooseStage ⟨name⟩ choice actor)) rfl
  | checkReference =>
    apply serves_withPart
    intro update
    apply serves_respond (.mutation (.check ⟨name⟩ update actor)) rfl
  | attach =>
    apply serves_withPart
    intro upload
    apply serves_respond (.mutation (.attach ⟨name⟩ upload actor)) rfl
  | timeline =>
    apply serves_withPart
    intro types
    apply serves_withPart
    intro limit
    apply serves_withPart
    intro offset
    cases eventTypesOf types with
    | error refusal => apply Serves.atOnce
    | ok eventTypes =>
      apply serves_respond (.timeline ⟨name⟩ { eventTypes, limit, offset } actor) rfl
  | timelineStats => apply serves_respond (.timelineStats ⟨name⟩ actor) rfl
  | validateAnswers =>
    apply serves_withPart
    intro answers
    apply serves_respond (.report ⟨name⟩ answers) rfl
  | submit | search | batch | activity | statistics | health | readiness | metrics =>
    apply Serves.atOnce

theorem serves_answerTo (e : Endpoint) (r : Request) (query name : String) (actor : Actor) :
  Serves policy (askedBy e r query name actor) (answerTo policy e r query name actor)
  := by
  cases e with
  | submit =>
    apply serves_withPart
    intro submission
    apply serves_respond (.mutation (.submit submission actor)) rfl
  | search =>
    apply serves_withPart
    rintro ⟨filters, options⟩
    apply serves_respond (.search filters options actor) rfl
  | batch =>
    apply serves_withPart
    intro batch
    apply serves_respond (.batch batch actor) rfl
  | activity =>
    apply serves_withPart
    intro ids
    apply serves_respond (.activity ids actor) rfl
  | statistics =>
    apply serves_withPart
    intro rescue
    apply serves_respond (.statistics (rescue.map RescueId.mk) actor) rfl
  | _ =>
    apply serves_withPart
    intro name
    apply serves_answerFor

theorem serves_answerAt (ready : Bool) (e : Endpoint) (r : Request) (query name : String) :
  Serves policy (askedAt e r query name) (answerAt policy ready e r query name)
  := by
  cases e with
  | health | readiness | metrics => apply Serves.atOnce
  | _ =>
    apply serves_withPart
    intro actor
    apply serves_answerTo

/-- Leaving out the body of the response changes nothing else. -/
theorem Serves.map {asked : Option Rehoming.Request} {p : Program Response}
    {f : Response → Response} (h : Serves policy asked p) (hf : ∀ r, (f r).status = r.status) :
  Serves policy asked (p.bind fun response => .done (f response))
  := by
  cases h with
  | atOnce response => exact .atOnce (f response)
  | byService q next herror hok =>
    rw [Program.bind_assoc]
    apply Serves.byService q
    · intro e
      obtain ⟨response, hresponse⟩ := herror e
      rw [hresponse]
      exact ⟨f response, rfl⟩
    · intro a
      obtain ⟨response, hresponse, hsuccess⟩ := hok a
      rw [hresponse]
      refine ⟨f response, rfl, ?_⟩
      rw [Response.isSuccess, hf]
      exact hsuccess

/-- Every request is answered by the service that it asks for, or at once. -/
theorem serves_handle (policy : Policy) (ready : Bool) (r : Request) :
  Serves policy (asked r) (handle policy ready r)
  := by
  rw [asked, handle]
  cases destination r.method r.target.path with
  | notFound | methodNotAllowed => apply Serves.atOnce
  | endpoint e name headOnly =>
    apply (serves_answerAt ready e r r.target.query name).map
    intro response
    cases headOnly <;> rfl

/-! ### Who asks -/

section

variable {e : Endpoint} {r : Request} {query name : String} {actor : Actor} {q : Rehoming.Request}

theorem askedBy_of_askedFor (h : askedFor e r query name actor = some q) :
  q.AskedBy actor
  := by
  cases e with
  | read | edit | decide | chooseStage | checkReference | attach | validateAnswers =>
    obtain ⟨_, -, ⟨⟩⟩ := Option.bind_eq_some_iff.mp h
    trivial
  | delete | withdraw | timelineStats =>
    cases h
    rfl
  | timeline =>
    obtain ⟨types, -, h⟩ := Option.bind_eq_some_iff.mp h
    obtain ⟨limit, -, h⟩ := Option.bind_eq_some_iff.mp h
    obtain ⟨offset, -, h⟩ := Option.bind_eq_some_iff.mp h
    obtain ⟨eventTypes, -, ⟨⟩⟩ := Option.bind_eq_some_iff.mp h
    rfl
  | submit | search | batch | activity | statistics | health | readiness | metrics => cases h

theorem askedBy_of_askedBy (h : askedBy e r query name actor = some q) :
  q.AskedBy actor
  := by
  cases e with
  | submit | search | batch | activity | statistics =>
    obtain ⟨_, -, ⟨⟩⟩ := Option.bind_eq_some_iff.mp h
    rfl
  | _ =>
    obtain ⟨name, -, h⟩ := Option.bind_eq_some_iff.mp h
    apply askedBy_of_askedFor h

/-- Whoever asks for something is the one that the headers tell. -/
theorem askedBy_of_asked (h : asked r = some q) :
  ∃ actor, actorOf r = .ok actor ∧ q.AskedBy actor
  := by
  rw [asked] at h
  cases hdestination : destination r.method r.target.path with
  | notFound | methodNotAllowed =>
    rw [hdestination] at h
    cases h
  | endpoint e name headOnly =>
    rw [hdestination] at h
    have hactor : ∃ actor, (actorPart r).toOption = some actor ∧ q.AskedBy actor := by
      cases e with
      | health | readiness | metrics => cases h
      | _ =>
        obtain ⟨actor, hactor, h⟩ := Option.bind_eq_some_iff.mp h
        exact ⟨actor, hactor, askedBy_of_askedBy h⟩
    obtain ⟨actor, hactor, hasked⟩ := hactor
    use actor
    rw [actorPart] at hactor
    cases hheaders : actorOf r with
    | error message =>
      rw [hheaders] at hactor
      cases hactor
    | ok actor' =>
      rw [hheaders] at hactor
      obtain rfl : actor' = actor := Option.some.inj hactor
      exact ⟨rfl, hasked⟩

end

end Rehoming.Http
