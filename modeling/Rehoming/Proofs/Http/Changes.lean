import Rehoming.Proofs.Http.Asking
import Rehoming.Proofs.Performing.Authority
import Rehoming.Proofs.Sharing.Requests
/-!
# What requests change

Whatever the service is asked for, directly or over HTTP, it changes what the actor may change
and nothing else, and whatever it refuses changes nothing.
-/

namespace Rehoming

/-- A request that the service refuses leaves the world as it is. -/
theorem Request.perform_snd_of_error {r : Request} {policy : Policy} {w : World} {e : Refusal}
    (h : (w.perform (r.service policy)).1 = .error e) :
  (w.perform (r.service policy)).2 = w
  := by
  cases r with
  | mutation m =>
    obtain ⟨e', hrefused⟩ | ⟨stored, hreply, -⟩ := m.perform_cases policy w
    · change w.perform (service policy (.mutation m)) = (.error e', w) at hrefused
      rw [hrefused]
    · change (w.perform (service policy (.mutation m))).1 = .ok (m.reply stored) at hreply
      rw [hreply] at h
      cases h
  | batch b actor =>
    obtain ⟨e', hrefused⟩ | ⟨items, -, hitems⟩ := Service.perform_applyBatch policy b actor w
    · change w.perform (service policy (.batch b actor)) = (.error e', w) at hrefused
      rw [hrefused]
    · change w.perform (service policy (.batch b actor)) = _ at hitems
      rw [hitems] at h
      cases h
  | _ => exact perform_snd_of_isLook rfl policy w

namespace Http

/-- A request is answered at once, and the world stays as it is, or the service has done what
it asks for.  Then the response reports a success if the service has changed something. -/
theorem run_handle_cases (policy : Policy) (ready : Bool) (r : Request) (w : World) :
  ((handle policy ready r).run World.answer w).2 = w
  ∨ ∃ q, asked r = some q
    ∧ ((handle policy ready r).run World.answer w).2 = (w.perform (q.service policy)).2
    ∧ ∀ a, (w.perform (q.service policy)).1 = .ok a → q.isLook = false →
        ((handle policy ready r).run World.answer w).1.isSuccess = true
  := by
  have hserves := serves_handle policy ready r
  generalize handle policy ready r = p at hserves
  cases hasked : asked r with
  | none =>
    rw [hasked] at hserves
    cases hserves with
    | atOnce response => exact .inl rfl
  | some q =>
    rw [hasked] at hserves
    cases hserves with
    | byService _ next herror hok =>
      right
      use q, rfl
      rw [Program.run_bind]
      change ((next (w.perform (q.service policy)).1).run World.answer
          (w.perform (q.service policy)).2).2 = _
        ∧ ∀ a, _ → _ → ((next (w.perform (q.service policy)).1).run World.answer
          (w.perform (q.service policy)).2).1.isSuccess = true
      cases (w.perform (q.service policy)).1 with
      | error e =>
        obtain ⟨response, hresponse⟩ := herror e
        rw [hresponse]
        exact ⟨rfl, nofun⟩
      | ok a =>
        obtain ⟨response, hresponse, hsuccess⟩ := hok a
        rw [hresponse]
        refine ⟨rfl, ?_⟩
        intro _ _ hlook
        rw [hlook] at hsuccess
        simpa using hsuccess

end Http

/-! ### Authority -/

/-- Whatever an actor asks for, the actor has one record more in the end, or only records that
the request names have changed, and each of them as the actor may change it: as its owner, as
an administrator or as staff of its rescue, and either of these only in the fields that are
theirs.  So it is with a request over HTTP, for the actor of its headers. -/
theorem changes_authorized (policy : Policy) (w : World) :
  (∀ (r : Request) (actor : Actor), r.AskedBy actor →
    w.records.ChangedBy (actor.resolvedIn w.directory) r.targets
      (w.perform (r.service policy)).2.records)
  ∧ ∀ (ready : Bool) (h : Http.Request),
    ((Http.handle policy ready h).run World.answer w).2.records = w.records
    ∨ ∃ actor r, Http.actorOf h = .ok actor ∧ Http.asked h = some r
      ∧ w.records.ChangedBy (actor.resolvedIn w.directory) r.targets
          ((Http.handle policy ready h).run World.answer w).2.records
  := by
  constructor
  · intro r actor hactor
    exact r.perform_changedBy hactor policy w
  · intro ready h
    obtain hsame | ⟨r, hasked, hworld, -⟩ := Http.run_handle_cases policy ready h w
    · left
      rw [hsame]
    · right
      obtain ⟨actor, hheaders, hactor⟩ := Http.askedBy_of_asked hasked
      use actor, r, hheaders, hasked
      rw [hworld]
      exact r.perform_changedBy hactor policy w

/-- A rejection by the staff. -/
def Demo.rejection : Request :=
  .mutation (.decide ⟨"app-1"⟩ ⟨.rejected, some "No garden", none, none⟩ staff)

/-- The staff rejects the application of the adopter, as staff of the rescue. -/
theorem rejection_authorized :
  ∃ a b, Demo.applied.records.find? ⟨"app-1"⟩ = some a
    ∧ (Demo.applied.perform (Demo.rejection.service Demo.policy)).2.records.find? ⟨"app-1"⟩ = some b
    ∧ a.status = .submitted ∧ b.status = .rejected
    ∧ a.AmendedBy (Demo.staff.resolvedIn Demo.applied.directory) b
  := by
  have hbefore : (Demo.applied.records.find? ⟨"app-1"⟩).map Application.status
      = some .submitted := by decide +kernel
  have hafter : ((Demo.applied.perform (Demo.rejection.service Demo.policy)).2.records.find?
      ⟨"app-1"⟩).map Application.status = some .rejected := by decide +kernel
  obtain ⟨a, ha, hsubmitted⟩ := Option.map_eq_some_iff.mp hbefore
  obtain ⟨b, hb, hrejected⟩ := Option.map_eq_some_iff.mp hafter
  refine ⟨a, b, ha, hb, hsubmitted, hrejected, ?_⟩
  have hchanged := (changes_authorized Demo.policy Demo.applied).1 Demo.rejection Demo.staff rfl
  cases hchanged with
  | amended hamended =>
    obtain ⟨b', hb', rfl | ⟨-, h⟩⟩ := hamended.stored ⟨"app-1"⟩ a ha
    · rw [hb] at hb'
      obtain rfl := Option.some.inj hb'
      rw [hsubmitted] at hrejected
      cases hrejected
    · rw [hb] at hb'
      obtain rfl := Option.some.inj hb'
      exact h
  | created c hfree huser hlater =>
    have hcount : (Demo.applied.perform (Demo.rejection.service Demo.policy)).2.records.length
        = Demo.applied.records.length := by decide +kernel
    rw [hlater, List.length_append] at hcount
    simp at hcount

/-! ### Refusals -/

/-- What is refused changes nothing: a request to the service, an item of a batch, which is
reported as a failure and leaves the world that it started in, and a request over HTTP that is
not answered with a success. -/
theorem refusals_change_nothing (policy : Policy) (w : World) :
  (∀ (r : Request) (e : Refusal), (w.perform (r.service policy)).1 = .error e →
    (w.perform (r.service policy)).2 = w)
  ∧ (∀ (b : Batch) (actor : Actor) (result : BatchResult),
    (w.perform (Service.applyBatch policy b actor)).1 = .ok result →
    ∃ items, items = w.performEach policy b.updates (actor.resolvedIn w.directory) b.applicationIds
      ∧ (w.perform (Service.applyBatch policy b actor)).2 = w.afterItems items
      ∧ result.failures = items.filterMap BatchItem.failure?
      ∧ ∀ item ∈ items, item.failure?.isSome = true → item.finish = item.start)
  ∧ ∀ (ready : Bool) (h : Http.Request),
    ((Http.handle policy ready h).run World.answer w).1.isSuccess = false →
    ((Http.handle policy ready h).run World.answer w).2 = w
  := by
  refine ⟨fun r e => r.perform_snd_of_error, ?_, ?_⟩
  · intro b actor result hresult
    obtain ⟨e, hrefused⟩ | ⟨items, hitems, hperformed⟩ := Service.perform_applyBatch policy b actor w
    · rw [hrefused] at hresult
      cases hresult
    · rw [hperformed] at hresult ⊢
      obtain rfl := Except.ok.inj hresult
      refine ⟨items, hitems, rfl, rfl, ?_⟩
      intro item hitem hfailure
      obtain ⟨failure, hfailure⟩ := Option.isSome_iff_exists.mp hfailure
      rw [hitems] at hitem
      exact BatchItem.finish_eq hitem hfailure
  · intro ready h hfailure
    obtain hsame | ⟨r, -, hworld, hsuccess⟩ := Http.run_handle_cases policy ready h w
    · exact hsame
    · rw [hworld]
      cases hresult : (w.perform (r.service policy)).1 with
      | error e => exact r.perform_snd_of_error hresult
      | ok a =>
        cases hlook : r.isLook with
        | true => exact Request.perform_snd_of_isLook hlook policy w
        | false =>
          rw [hsuccess a hresult hlook] at hfailure
          cases hfailure

/-- A withdrawal by somebody else. -/
def Demo.intrusion : Request :=
  .mutation (.withdraw ⟨"app-1"⟩ ⟨none⟩ secondAdopter)

/-- A deletion over HTTP that does not tell who acts. -/
def Demo.anonymousDeletion : Http.Request :=
  ⟨"DELETE", ⟨"/api/v1/adoption/applications/app-1", ""⟩, [], none⟩

/-- Neither the withdrawal by somebody else nor the anonymous deletion changes anything. -/
theorem intrusions_change_nothing :
  (Demo.applied.perform (Demo.intrusion.service Demo.policy)).2 = Demo.applied
  ∧ ((Http.handle Demo.policy true Demo.anonymousDeletion).run World.answer Demo.applied).2
      = Demo.applied
  := by
  obtain ⟨hrequests, -, hhttp⟩ := refusals_change_nothing Demo.policy Demo.applied
  constructor
  · cases hresult : (Demo.applied.perform (Demo.intrusion.service Demo.policy)).1 with
    | error e => exact hrequests Demo.intrusion e hresult
    | ok a =>
      have hrefused : (Demo.applied.perform (Demo.intrusion.service Demo.policy)).1.isOk = false := by
        decide +kernel
      rw [hresult] at hrefused
      cases hrefused
  · apply hhttp
    decide +kernel

end Rehoming
