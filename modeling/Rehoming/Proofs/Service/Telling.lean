import Rehoming.Proofs.Service.Amendment
import Rehoming.Proofs.Service.Looking
import Rehoming.Proofs.Sharing.System
/-!
# What operations tell the timeline

An operation puts an event into the timeline only once it has written a record, and the event
is about the record that it has written last.
-/

namespace Rehoming

/-- The name of the record that a call has written, else the one that was written before. -/
def Call.writtenLast (call : Call) (answer : call.Answer) (last : Option ApplicationId) :
    Option ApplicationId :=
  match call.written answer with
  | some (_, a) => some a.applicationId
  | none => last

/-- Whether a call tells of nothing else than the record that was written last. -/
def Call.tells (last : Option ApplicationId) : Call → Prop
  | .record event => last = some event.applicationId
  | _ => True

/-- Whether a program that has written some record last tells only of the one that it has
written last, and returns with an outcome in `post`. -/
def Program.Tells {α : Type} (post : Option ApplicationId → α → Prop) :
    Program α → Option ApplicationId → Prop
  | .done a, last => post last a
  | .ask call next, last =>
    call.tells last ∧ ∀ w,
      (next (World.answer call w).1).Tells post (call.writtenLast (World.answer call w).1 last)

/-- Whether an operation tells only of the record that it has written last, and returns with an
outcome in `ok` unless it is refused. -/
def Service.Tells {α : Type} (ok : Option ApplicationId → α → Prop) (x : Service α)
    (last : Option ApplicationId) : Prop :=
  x.run.Tells
    (fun last r => match r with
      | .ok a => ok last a
      | .error _ => True) last

variable {α β : Type} {last : Option ApplicationId}

namespace Program

@[simp]
theorem tells_bind {post : Option ApplicationId → β → Prop} (p : Program α) (f : α → Program β) :
  (p.bind f).Tells post last ↔ p.Tells (fun last a => (f a).Tells post last) last
  := by
  induction p generalizing last with
  | done a => rfl
  | ask call next ih => simp only [ask_bind, Tells, ih]

theorem Tells.mono {post post' : Option ApplicationId → α → Prop} {p : Program α}
    (hpost : ∀ last a, post last a → post' last a) (h : p.Tells post last) :
  p.Tells post' last
  := by
  induction p generalizing last with
  | done a => exact hpost _ _ h
  | ask call next ih =>
    use h.1
    intro w
    apply ih _ (h.2 w)

/-- What only looks tells nothing and writes nothing. -/
theorem Obeys.tells_of_looking {post : Sight → α → Prop} {σ : Sight} {p : Program α}
    (h : p.Obeys looking post σ) :
  p.Tells (fun last' a => last' = last ∧ ∃ σ', post σ' a) last
  := by
  induction p generalizing σ with
  | done a => exact ⟨rfl, σ, h⟩
  | ask call next ih =>
    constructor
    · cases call with
      | record => cases h.1
      | _ => trivial
    · intro w
      have hlast : call.writtenLast (World.answer call w).1 last = last := by
        cases call with
        | insert | update => cases h.1
        | _ => rfl
      rw [hlast]
      apply ih
      apply h.2 w trivial

end Program

/-- What only reads only looks. -/
theorem Sight.permits.isLook {σ : Sight} {call : Call} (h : σ.permits call) :
  call.isLook = true
  := by
  cases call with
  | now | fresh | findActive | findUser | findPet | findStaffRescue | questionsForRescue => rfl
  | insert | update | fetch | search | listForRescue | matchingUsers | matchingPets | record
  | eventsFor | eventsForMany | log => cases h

namespace Service

variable {ok : Option ApplicationId → β → Prop}

@[simp]
theorem tells_bind (x : Service α) (f : α → Service β) :
  Service.Tells ok (x >>= f) last ↔ x.Tells (fun last a => (f a).Tells ok last) last
  := by
  rw [Tells, run_bind, Program.tells_bind, Tells]
  apply iff_of_eq
  congr 1
  funext last r
  cases r with
  | ok a => rfl
  | error e => rfl

@[simp]
theorem tells_lift (p : Program β) :
  Service.Tells ok (ExceptT.lift p) last ↔ p.Tells ok last
  := Program.tells_bind p _

/-- A call, whatever the answer. -/
theorem tells_ask_bind {call : Call} {f : call.Answer → Service β} (hcall : call.tells last)
    (h : ∀ answer, (f answer).Tells ok (call.writtenLast answer last)) :
  (ask call >>= f).Tells ok last
  := ⟨hcall, fun w => h (World.answer call w).1⟩

theorem Tells.mono {ok' : Option ApplicationId → β → Prop} {x : Service β}
    (hok : ∀ last a, ok last a → ok' last a) (h : x.Tells ok last) :
  x.Tells ok' last
  := by
  apply Program.Tells.mono _ h
  rintro last (e | a) hr
  · trivial
  · exact hok _ _ hr

/-- An operation that first looks goes on with what it tells afterwards. -/
theorem Obeys.tells_bind {σ : Sight} {post : Sight → α → Prop} {bad : Sight → Refusal → Prop}
    {x : Service α} {f : α → Service β} (h : x.Obeys looking post bad σ)
    (hf : ∀ a σ', post σ' a → (f a).Tells ok last) :
  (x >>= f).Tells ok last
  := by
  rw [Service.tells_bind]
  apply Program.Tells.mono _ h.tells_of_looking
  rintro last' (e | a) ⟨rfl, σ', hpost⟩
  · trivial
  · exact hf a σ' hpost

theorem requireNone_tells {fields : List FieldError} {refusal : List FieldError → Refusal}
    {x : Service β} (h : fields = [] → x.Tells ok last) :
  (requireNone fields refusal >>= fun _ => x).Tells ok last
  := by
  have hlooks : (requireNone fields refusal).Obeys looking (fun _ _ => fields = [])
      (fun _ _ => True) {} := by
    simp only [obeys_requireNone, implies_true, and_true, imp_self]
  apply hlooks.tells_bind
  intro _ _ hfields
  exact h hfields

theorem require_tells {condition : Bool} {e : Refusal} {x : Service β} (h : x.Tells ok last) :
  (require condition e >>= fun _ => x).Tells ok last
  := by
  cases condition with
  | true => exact h
  | false => trivial

theorem stored_tells {answer : Except StoreError α} {f : α → Service β}
    (h : ∀ a, (f a).Tells ok last) :
  (stored answer >>= f).Tells ok last
  := by
  cases answer with
  | ok a => exact h a
  | error e => trivial

theorem present_tells {missing : Refusal} {found : Option α} {f : α → Service β}
    (h : ∀ a, (f a).Tells ok last) :
  (present missing found >>= f).Tells ok last
  := by
  cases found with
  | some a => exact h a
  | none => trivial

theorem resolve_tells {actor : Actor} {f : Actor → Service β}
    (h : ∀ actor', (f actor').Tells ok last) :
  (resolve actor >>= f).Tells ok last
  := by
  have hlooks : (resolve actor).Obeys looking (fun _ _ => True) (fun _ _ => True) {} :=
    obeys_resolve actor rfl fun _ _ => trivial
  apply hlooks.tells_bind
  intro actor' _ _
  exact h actor'

theorem requireAnswers_tells {rescue : RescueId} {answers : Answers} {x : Service β}
    (h : x.Tells ok last) :
  (requireAnswers rescue answers >>= fun _ => x).Tells ok last
  := by
  have hlooks : (requireAnswers rescue answers).Obeys looking (fun _ _ => True)
      (fun _ _ => True) {} := by
    simp [looking, Call.isLook]
  apply hlooks.tells_bind
  intro _ _ _
  exact h

/-- An event about the record that was written last may be told. -/
theorem record_tells {event : String → TimelineEvent} {id : ApplicationId} {x : Service β}
    (hevent : ∀ name, (event name).applicationId = id) (h : x.Tells ok (some id)) :
  (record event >>= fun _ => x).Tells ok (some id)
  := by
  refine ⟨trivial, fun w => ⟨?_, fun w' => h⟩⟩
  exact congrArg some (hevent _).symm

theorem log_tells {entry : String → AuditEntry} {x : Service β} (h : x.Tells ok last) :
  (log entry >>= fun _ => x).Tells ok last
  := ⟨trivial, fun _ => ⟨trivial, fun _ => h⟩⟩

theorem recordMove_tells {done : Moved} {user : UserId} {reason notes : Option String}
    {x : Service β} (h : x.Tells ok (some done.after.applicationId)) :
  (recordMove done user reason notes >>= fun _ => x).Tells ok (some done.after.applicationId)
  := by
  rw [recordMove, LawfulMonad.bind_assoc]
  apply record_tells
  · intro name
    rfl
  · cases done.outcome with
    | none => exact h
    | some move =>
      apply record_tells
      · intro name
        rfl
      · exact h

/-! ### Commits -/

variable {policy : Policy} {actor : Actor} {id : ApplicationId} {change : Change α}

/-- That an operation which has written a record last answers what it has written. -/
def answersLast (last : Option ApplicationId) (done : Committed α) : Prop :=
  last = some done.after.applicationId

theorem attempt_tells {late : Nat → Nat → Service (Committed α)}
    (hchange : ChangeAmends (fun _ => True) policy actor change)
    (hlate : ∀ expected current, (late expected current).Tells answersLast last) :
  (attempt policy id change late).Tells answersLast last
  := by
  refine tells_ask_bind trivial fun found => stored_tells fun found => present_tells fun before => ?_
  refine tells_ask_bind trivial fun now => ?_
  have hlooks : (change before now).Obeys looking (fun _ _ => True) (fun _ _ => True) {} := by
    apply (hchange before now {} rfl).mono (fun _ _ => trivial) _ (fun _ _ _ => trivial)
      (fun _ _ h => h)
    intro σ call hcall
    exact Sight.permits.isLook hcall
  apply hlooks.tells_bind
  rintro ⟨draft, outcome⟩ σ -
  apply tells_ask_bind
  · trivial
  -- Only the write that succeeds, and the next attempt after a write that comes too late, answer.
  rintro ((_ | _ | ⟨expected, current⟩ | _ | _) | after)
  case ok => rfl
  case error.staleWrite => apply hlate
  all_goals trivial

/-- A commit ends with the record written that it answers. -/
theorem commit_tells (hchange : ChangeAmends (fun _ => True) policy actor change) {retries : Nat} :
  (commit policy id change retries).Tells answersLast last
  := by
  induction retries with
  | zero =>
    apply attempt_tells hchange
    intro expected current
    trivial
  | succ left ih =>
    apply attempt_tells hchange
    intro expected current
    exact ih

theorem commit_bind_tells {tail : Committed α → Service β} {retries : Nat}
    (hchange : ChangeAmends (fun _ => True) policy actor change)
    (htail : ∀ done, (tail done).Tells ok (some done.after.applicationId)) :
  (commit policy id change retries >>= tail).Tells ok last
  := by
  rw [tells_bind]
  apply (commit_tells hchange).mono
  rintro last' done hdone
  rw [show last' = some done.after.applicationId from hdone]
  apply htail

/-! ### The operations -/

/-- That an operation tells only of the record that it has written last. -/
def TellsOfWrites (x : Service β) : Prop :=
  ∀ last, x.Tells (fun _ _ => True) last

theorem submit_tells (s : Submission) :
  TellsOfWrites (submit policy s actor)
  := by
  intro last
  apply requireNone_tells
  intro _
  refine tells_ask_bind trivial fun user => stored_tells fun user => present_tells fun _ => ?_
  refine tells_ask_bind trivial fun pet => stored_tells fun pet => present_tells fun pet => ?_
  apply require_tells
  refine tells_ask_bind trivial fun active => stored_tells fun active => ?_
  apply require_tells
  apply requireAnswers_tells
  refine tells_ask_bind trivial fun now => tells_ask_bind trivial fun name => ?_
  rw [insertNew, LawfulMonad.bind_assoc]
  apply tells_ask_bind
  · trivial
  rintro ((_ | _ | _ | _ | _) | stored)
  case ok =>
    apply record_tells
    · intro name
      rfl
    · apply log_tells
      trivial
  all_goals trivial

theorem edit_tells (e : Edit) :
  TellsOfWrites (edit policy id e actor)
  := by
  intro last
  apply requireNone_tells
  intro hfaults
  apply commit_bind_tells (editChange_amends hfaults)
  intro done
  by_cases changed : done.outcome.isEmpty
  · simp only [changed]
    trivial
  · simp only [changed, Bool.not_false, if_true]
    apply record_tells
    · intro name
      rfl
    · apply log_tells
      trivial

theorem decideStatus_tells (d : Decision) :
  TellsOfWrites (decideStatus policy id d actor)
  := by
  intro last
  apply resolve_tells
  intro actor'
  have hchange : ChangeAmends (fun _ => True) policy actor' (decisionChange d actor') :=
    decisionChange_amends
  apply commit_bind_tells hchange
  intro done
  apply recordMove_tells
  apply log_tells
  trivial

theorem withdraw_tells (w : Withdrawal) :
  TellsOfWrites (withdraw policy id w actor)
  := by
  intro last
  apply commit_bind_tells withdrawalChange_amends
  intro done
  apply recordMove_tells
  apply log_tells
  trivial

theorem checkReference_tells (u : ReferenceUpdate) :
  TellsOfWrites (checkReference policy id u actor)
  := by
  intro last
  rw [checkReference]
  cases hindex : u.resolve policy.maxReferenceSlots with
  | error e => trivial
  | ok index =>
    apply resolve_tells
    intro actor'
    apply commit_bind_tells (checkChange_amends hindex)
    intro done
    cases hslot : done.outcome.slot with
    | none =>
      simp only
      trivial
    | some slot =>
      simp only
      apply record_tells
      · intro name
        rfl
      · apply log_tells
        trivial

theorem attach_tells (u : Upload) :
  TellsOfWrites (attach policy id u actor)
  := by
  intro last
  apply requireNone_tells
  intro hfaults
  apply commit_bind_tells (uploadChange_amends hfaults)
  intro done
  apply record_tells
  · intro name
    rfl
  · apply log_tells
    trivial

theorem chooseStage_tells (c : StageChoice) :
  TellsOfWrites (chooseStage policy id c actor)
  := by
  intro last
  apply requireNone_tells
  intro hfaults
  apply resolve_tells
  intro actor'
  apply commit_bind_tells (stageChange_amends hfaults)
  intro done
  by_cases moved : done.outcome = done.after.stage
  · simp only [moved, bne_self_eq_false]
    trivial
  · simp only [bne_iff_ne.mpr moved, if_true]
    apply record_tells
    · intro name
      rw [stageChosenEvent]
      cases Text.nonBlank c.notes with
      | none => rfl
      | some notes => rfl
    · apply log_tells
      trivial

theorem delete_tells :
  TellsOfWrites (delete policy id actor)
  := by
  intro last
  apply commit_bind_tells deletionChange_amends
  intro done
  apply log_tells
  trivial

theorem patchOne_tells (p : Patch) :
  TellsOfWrites (patchOne policy id p actor)
  := by
  intro last
  apply commit_bind_tells patchChange_amends
  intro done
  by_cases moved : done.before.status = done.after.status
  · simp only [moved, bne_self_eq_false]
    apply log_tells
    trivial
  · simp only [bne_iff_ne.mpr moved, if_true]
    apply recordMove_tells
    apply log_tells
    trivial

theorem patchEach_tells (p : Patch) (ids : List ApplicationId) :
  (patchEach policy p actor ids).Tells (fun _ _ => True) last
  := by
  induction ids generalizing last with
  | nil => trivial
  | cons id rest ih =>
    rw [patchEach, Program.bind_eq, Program.tells_bind]
    apply Program.Tells.mono _ (patchOne_tells p last)
    intro last' outcome _
    rw [Program.bind_eq, Program.tells_bind]
    apply Program.Tells.mono _ ih
    intro last'' result _
    cases outcome with
    | ok a => trivial
    | error e => trivial

theorem applyBatch_tells (b : Batch) :
  TellsOfWrites (applyBatch policy b actor)
  := by
  intro last
  apply requireNone_tells
  intro _
  apply resolve_tells
  intro actor'
  apply require_tells
  apply (tells_lift _).mpr
  apply patchEach_tells

end Service

theorem Mutation.tells (m : Mutation) (policy : Policy) :
  Service.TellsOfWrites (m.service policy)
  := by
  cases m with
  | submit s actor => exact Service.submit_tells s
  | edit id e actor => exact Service.edit_tells e
  | decide id d actor => exact Service.decideStatus_tells d
  | withdraw id w actor => exact Service.withdraw_tells w
  | check id u actor => exact Service.checkReference_tells u
  | attach id u actor => exact Service.attach_tells u
  | chooseStage id c actor => exact Service.chooseStage_tells c
  | delete id actor => exact Service.delete_tells
  | patch id p actor => exact Service.patchOne_tells p

/-- Whatever is asked of the service tells only of what it has written last. -/
theorem Request.tells (r : Request) (policy : Policy) :
  Service.TellsOfWrites (r.service policy)
  := by
  by_cases hlook : r.isLook = true
  · intro last
    apply Program.Tells.mono _ (Program.Obeys.tells_of_looking (σ := {}) (r.looks hlook policy))
    rintro last' (e | a) _
    · trivial
    · trivial
  · cases r with
    | mutation m => exact m.tells policy
    | batch b actor => exact Service.applyBatch_tells b
    | _ => cases hlook rfl

end Rehoming
