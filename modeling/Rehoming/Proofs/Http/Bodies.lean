import Rehoming.Http.Handler
import Rehoming.Proofs.Sharing.Requests
/-!
# Bodies that cannot be read

A body that is no document of what an endpoint asks for is refused, and nothing happens.  A
withdrawal is the only request that does not need its body, and a body that it cannot read counts
as none: the application is withdrawn all the same.
-/

namespace Rehoming.Http

/-- Whether a body can be read as what is asked for at an endpoint; `none` where a request has no
body.  What counts is the first document of a body: what follows it is not looked at, so it may be
anything. -/
def Endpoint.reads? (e : Endpoint) (body : String) : Option Bool :=
  let document := Json.ofText body
  match e with
  | .submit => some (Submission.shape.decode document).isOk
  | .search => some (searchShape.decode document).isOk
  | .batch => some (Batch.shape.decode document).isOk
  | .edit => some (Edit.shape.decode document).isOk
  | .decide => some (Decision.shape.decode document).isOk
  | .withdraw => some (Withdrawal.shape.decode document).isOk
  | .chooseStage => some (StageChoice.shape.decode document).isOk
  | .checkReference => some (ReferenceUpdate.shape.decode document).isOk
  | .attach => some (Upload.shape.decode document).isOk
  | .activity => some (activityShape.decode document).isOk
  | .validateAnswers => some (Answers.ofJson document).isOk
  | .read | .delete | .timeline | .timelineStats | .statistics | .health | .readiness | .metrics => none

/-- Whether a response blames the request. -/
def Response.isClientError (r : Response) : Bool :=
  400 ≤ r.status && r.status ≤ 499

/-- That a program blames the request without asking for anything. -/
def Blames (p : Program Response) : Prop :=
  ∃ response, p = .done response ∧ response.isClientError = true

section

variable {α : Type} {d : Json.Decoder α} {r : Request} {body query name : String} {actor : Actor}
  {policy : Policy} {e : Endpoint}

/-- Whatever else may be wrong with a body, one that does not decode is refused. -/
theorem bodyPart_of_undecodable (hd : (d (Json.ofText (r.body.getD ""))).isOk = false) :
  ∃ response, bodyPart d r = .error response ∧ response.isClientError = true
  := by
  rw [bodyPart]
  split
  · exact ⟨_, rfl, rfl⟩
  · split
    · exact ⟨_, rfl, rfl⟩
    · cases hdocument : d (Json.ofText (r.body.getD "")) with
      | ok a =>
        rw [hdocument] at hd
        cases hd
      | error fault =>
        cases fault with
        | unreadable => exact ⟨_, rfl, rfl⟩
        | mismatched => exact ⟨_, rfl, rfl⟩

theorem blames_withBody {next : α → Program Response}
    (hd : (d (Json.ofText (r.body.getD ""))).isOk = false) :
  Blames (withBody d r next)
  := by
  obtain ⟨response, hpart, hclient⟩ := bodyPart_of_undecodable hd
  rw [withBody, hpart]
  exact ⟨response, rfl, hclient⟩

/-- A part of a request that is wrong is blamed before anything else happens. -/
theorem blames_withPart {p : Part α} {next : α → Program Response}
    (hp : ∀ response, p = .error response → response.isClientError = true)
    (hnext : ∀ a, Blames (next a)) :
  Blames (withPart p next)
  := by
  cases p with
  | ok a => exact hnext a
  | error response => exact ⟨response, rfl, hp response rfl⟩

theorem blames_namePart {next : String → Program Response} (hnext : ∀ name, Blames (next name)) :
  Blames (withPart (namePart name) next)
  := by
  apply blames_withPart _ hnext
  intro response h
  rw [namePart] at h
  split at h
  · cases h
  · obtain rfl := Except.error.inj h
    rfl

theorem blames_actorPart {next : Actor → Program Response} (hnext : ∀ actor, Blames (next actor)) :
  Blames (withPart (actorPart r) next)
  := by
  apply blames_withPart _ hnext
  intro response h
  rw [actorPart] at h
  split at h
  · cases h
  · obtain rfl := Except.error.inj h
    rfl

theorem blames_answerFor (hreads : e.reads? (r.body.getD "") = some false)
    (hneeded : e ≠ .withdraw) :
  Blames (answerFor policy e r query name actor)
  := by
  cases e with
  | edit | decide | chooseStage | checkReference | attach | validateAnswers =>
    exact blames_withBody (Option.some.inj hreads)
  | withdraw => exact absurd rfl hneeded
  | submit | search | batch | activity => exact ⟨_, rfl, rfl⟩
  | read | delete | timeline | timelineStats | statistics | health | readiness | metrics =>
    cases hreads

theorem blames_answerTo (hreads : e.reads? (r.body.getD "") = some false)
    (hneeded : e ≠ .withdraw) :
  Blames (answerTo policy e r query name actor)
  := by
  cases e with
  | submit | search | batch | activity => exact blames_withBody (Option.some.inj hreads)
  | statistics => cases hreads
  | _ =>
    apply blames_namePart
    intro name
    exact blames_answerFor hreads hneeded

theorem blames_answerAt (ready : Bool)
    (hreads : e.reads? (r.body.getD "") = some false) (hneeded : e ≠ .withdraw) :
  Blames (answerAt policy ready e r query name)
  := by
  cases e with
  | health | readiness | metrics => cases hreads
  | _ =>
    apply blames_actorPart
    intro actor
    exact blames_answerTo hreads hneeded

/-- A withdrawal does not look at a body that it cannot read. -/
theorem answerFor_withdraw_of_undecodable
    (hreads : Endpoint.reads? .withdraw (r.body.getD "") = some false) :
  answerFor policy .withdraw r query name actor
    = answerFor policy .withdraw { r with body := none } query name actor
  := by
  have hempty : (Withdrawal.shape.decode (Json.ofText "")).isOk = false := by decide +kernel
  obtain ⟨response, hpart, -⟩ := bodyPart_of_undecodable (Option.some.inj hreads)
  obtain ⟨response', hpart', -⟩ :=
    bodyPart_of_undecodable (d := Withdrawal.shape.decode) (r := { r with body := none }) hempty
  simp only [answerFor, hpart, hpart']

end

/-- A request whose body does not begin with what its endpoint asks for is blamed with a status
between 400 and 499, and changes nothing, unless it asks for a withdrawal: that is answered, and
carried out, as if it had no body. -/
theorem unreadable_bodies_refused (policy : Policy) (ready : Bool) (w : World) (r : Request)
    (body : String) (e : Endpoint) (name : String) (headOnly : Bool)
    (hdestination : destination r.method r.target.path = .endpoint e name headOnly)
    (hbody : r.body = some body) (hreads : e.reads? body = some false) :
  (e ≠ .withdraw →
    ((handle policy ready r).run World.answer w).1.isClientError = true
    ∧ ((handle policy ready r).run World.answer w).2 = w)
  ∧ (e = .withdraw → handle policy ready r = handle policy ready { r with body := none })
  := by
  have hreads' : e.reads? (r.body.getD "") = some false := by
    rw [hbody]
    exact hreads
  constructor
  · intro hneeded
    have hblames : Blames (answerAt policy ready e r r.target.query name) :=
      blames_answerAt ready hreads' hneeded
    obtain ⟨response, hresponse, hclient⟩ := hblames
    rw [handle, hdestination]
    simp only [hresponse]
    cases headOnly with
    | true => exact ⟨hclient, rfl⟩
    | false => exact ⟨hclient, rfl⟩
  · rintro rfl
    simp only [handle, hdestination, answerAt, answerTo, answerFor_withdraw_of_undecodable hreads']
    rfl

end Rehoming.Http

namespace Rehoming

/-- A request about the first application, with a text in place of a document. -/
def Demo.garbled (method action : String) (actor : Actor) : Http.Request where
  method
  target := ⟨"/api/v1/adoption/applications/app-1/" ++ action, ""⟩
  headers := [("x-actor-id", actor.userId.text), ("x-actor-role", actor.role.label),
    ("content-type", "application/json")]
  body := some "no longer needed"

/-- A decision of the administrator that cannot be read is refused, and changes nothing. -/
theorem Http.garbled_decision_refused :
  ((Http.handle Demo.policy true (Demo.garbled "PUT" "status" Demo.admin)).run World.answer
      Demo.applied).1.isClientError = true
  ∧ ((Http.handle Demo.policy true (Demo.garbled "PUT" "status" Demo.admin)).run World.answer
      Demo.applied).2 = Demo.applied
  := by
  have hrefused := Http.unreadable_bodies_refused Demo.policy true Demo.applied
    (Demo.garbled "PUT" "status" Demo.admin) "no longer needed" .decide "app-1" false
    (by decide +kernel) rfl (by decide +kernel)
  apply hrefused.1
  decide

/-- The adopter's withdrawal that cannot be read is a success, and the application is withdrawn. -/
theorem Demo.garbled_withdrawal_acts :
  Http.destination "POST" (garbled "POST" "withdraw" adopter).target.path
    = .endpoint .withdraw "app-1" false
  ∧ (garbled "POST" "withdraw" adopter).body = some "no longer needed"
  ∧ Http.Endpoint.reads? .withdraw "no longer needed" = some false
  ∧ ((Http.handle policy true (garbled "POST" "withdraw" adopter)).run World.answer
      applied).1.isClientError = false
  ∧ (applied.records.find? ⟨"app-1"⟩).map Application.status = some .submitted
  ∧ (((Http.handle policy true (garbled "POST" "withdraw" adopter)).run World.answer
      applied).2.records.find? ⟨"app-1"⟩).map Application.status = some .withdrawn
  := by
  decide +kernel

end Rehoming
