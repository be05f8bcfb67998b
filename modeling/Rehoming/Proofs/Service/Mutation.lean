import Rehoming.Proofs.Service.Transaction
/-!
# The mutations are transactions

Each operation that changes one application checks what it is asked for, commits one change,
and then keeps the books; a submission reads what it needs and inserts one record.
-/

namespace Rehoming

/-- That a program changes the record of a name: it may be refused or look up whom its actor
acts as first; then it commits a change, as one of some actors, and then it only keeps the books
and answers the record. -/
inductive Program.Commits {β : Type} (E : Rehoming.World → Prop) (policy : Policy) (who : Actor → Prop)
    (id : ApplicationId) (reply : Application → β) : Program (Except Refusal β) → Prop
  | refused (e : Refusal) :
      e.kind ≠ .storeFailure → Commits E policy who id reply (.done (.error e))
  | resolve {user next} :
      (∀ w, E w → Commits E policy who id reply (next (World.answer (.findStaffRescue user) w).1)) →
      Commits E policy who id reply (.ask (.findStaffRescue user) next)
  | commit {α : Type} {actor : Actor} {change : Service.Change α}
      {tail : Service.Committed α → Service β} :
      who actor → Service.ChangeAmends E policy actor change → Service.ChangeDeclines E change →
      (∀ done, (tail done).run.Concludes (.ok (reply done.after))) →
      Commits E policy who id reply
        (Service.commit policy id change policy.transitionRetries >>= tail).run

theorem Refusal.kind_ofSlotError (e : SlotError) :
  (ofSlotError e).kind = .validationFailed
  := by
  cases e with
  | _ => rfl

/-- What commits a change is a transaction. -/
theorem Program.Commits.transacts {β : Type} {E : Rehoming.World → Prop} {policy : Policy}
    {who : Actor → Prop} {id : ApplicationId} {reply : Application → β}
    {p head : Program (Except Refusal β)} (h : p.Commits E policy who id reply) :
  p.Transacts ((Rule.ofActors E policy who).on (some id)) reply head {}
  := by
  induction h with
  | refused e => exact .refused e
  | resolve hnext ih => exact .read trivial ih
  | commit hwho hamends hdeclines htail => exact Service.commit_transacts hwho hamends htail

namespace Service

/-! ### First steps and last ones -/

theorem ask_transacts {β : Type} {R : Rule} {reply : Application → β} {σ : Sight}
    {head : Program (Except Refusal β)} {call : Call} {f : call.Answer → Service β}
    (hpermits : σ.permits call)
    (h : ∀ w, R.worlds w → (f (World.answer call w).1).run.Transacts R reply head
      (σ.after call (World.answer call w).1)) :
  (ask call >>= f).run.Transacts R reply head σ
  := Program.Transacts.read hpermits h

theorem requireNone_transacts {β : Type} {R : Rule} {reply : Application → β}
    {head : Program (Except Refusal β)} {fields : List FieldError}
    {refusal : List FieldError → Refusal} {x : Service β}
    (h : fields = [] → x.run.Transacts R reply head {}) :
  (requireNone fields refusal >>= fun _ => x).run.Transacts R reply head {}
  := by
  apply Obeys.transacts
  rw [obeys_requireNone]
  use h
  intro _
  trivial

section First

variable {β : Type} {E : World → Prop} {policy : Policy} {who : Actor → Prop} {id : ApplicationId}
  {reply : Application → β}

theorem requireNone_commits {fields : List FieldError} {x : Service β}
    (h : fields = [] → x.run.Commits E policy who id reply) :
  (requireNone fields .invalidInput >>= fun _ => x).run.Commits E policy who id reply
  := by
  cases fields with
  | nil => exact h rfl
  | cons field rest => exact .refused (.invalidInput (field :: rest)) (by simp [Refusal.kind])

/-- What commits a change as whomever the actor acts as commits one of the actor. -/
theorem resolve_commits {actor : Actor} {f : Actor → Service β}
    (h : ∀ actor', actor.ActsAs E actor' → (f actor').run.Commits E policy who id reply) :
  (resolve actor >>= f).run.Commits E policy who id reply
  := by
  rw [resolve]
  split
  next hstaff =>
    apply Program.Commits.resolve
    intro w hw
    apply h _ (.staff w hw hstaff.1 hstaff.2)
  next => apply h _ .itself

end First

theorem concludes_recordMove {done : Moved} {user : UserId} {reason notes : Option String}
    {x : Service Application} {a : Application} (h : x.run.Concludes (.ok a)) :
  (recordMove done user reason notes >>= fun _ => x).run.Concludes (.ok a)
  := by
  rw [recordMove, LawfulMonad.bind_assoc]
  apply concludes_record
  cases done.outcome with
  | none => apply h
  | some move => apply concludes_record h

/-! ### The operations -/

variable {E : Rehoming.World → Prop} {policy : Policy} {who : Actor → Prop} {actor : Actor}
  {id : ApplicationId} {head : Program (Except Refusal Application)}

theorem edit_commits (hwho : who actor) (e : Edit) :
  (edit policy id e actor).run.Commits E policy who id (fun stored => stored)
  := by
  apply requireNone_commits
  intro hfaults
  apply Program.Commits.commit hwho (editChange_amends hfaults) editChange_declines
  intro done
  by_cases changed : done.outcome.isEmpty
  · simp only [changed]
    apply concludes_pure
  · simp only [changed]
    apply concludes_record
    apply concludes_log
    apply concludes_pure

theorem decideStatus_commits (hwho : ∀ actor', actor.ActsAs E actor' → who actor')
    (d : Decision) :
  (decideStatus policy id d actor).run.Commits E policy who id (fun stored => stored)
  := by
  apply resolve_commits
  intro actor' hactor
  apply Program.Commits.commit (hwho actor' hactor) decisionChange_amends decisionChange_declines
  intro done
  apply concludes_recordMove
  apply concludes_log
  apply concludes_pure

theorem withdraw_commits (hwho : who actor) (w : Withdrawal) :
  (withdraw policy id w actor).run.Commits E policy who id (fun stored => stored)
  := by
  apply Program.Commits.commit hwho withdrawalChange_amends withdrawalChange_declines
  intro done
  apply concludes_recordMove
  apply concludes_log
  apply concludes_pure

theorem checkReference_commits (hwho : ∀ actor', actor.ActsAs E actor' → who actor')
    (u : ReferenceUpdate) :
  (checkReference policy id u actor).run.Commits E policy who id (fun stored => stored)
  := by
  rw [checkReference]
  cases hresolve : u.resolve policy.maxReferenceSlots with
  | error e =>
    apply Program.Commits.refused (Refusal.ofSlotError e)
    simp [Refusal.kind_ofSlotError]
  | ok index =>
    apply resolve_commits
    intro actor' hactor
    apply Program.Commits.commit (hwho actor' hactor) (checkChange_amends hresolve) checkChange_declines
    intro done
    cases hslot : done.outcome.slot with
    | none =>
      simp only
      apply concludes_pure
    | some slot =>
      simp only
      apply concludes_record
      apply concludes_log
      apply concludes_pure

theorem attach_commits (hwho : who actor) (u : Upload) :
  (attach policy id u actor).run.Commits E policy who id (fun stored => stored)
  := by
  apply requireNone_commits
  intro hfaults
  apply Program.Commits.commit hwho (uploadChange_amends hfaults) uploadChange_declines
  intro done
  apply concludes_record
  apply concludes_log
  apply concludes_pure

theorem chooseStage_commits (hwho : ∀ actor', actor.ActsAs E actor' → who actor')
    (c : StageChoice) :
  (chooseStage policy id c actor).run.Commits E policy who id (fun stored => stored)
  := by
  apply requireNone_commits
  intro hfaults
  apply resolve_commits
  intro actor' hactor
  apply Program.Commits.commit (hwho actor' hactor) (stageChange_amends hfaults) stageChange_declines
  intro done
  by_cases moved : done.outcome = done.after.stage
  · simp only [moved, bne_self_eq_false]
    apply concludes_pure
  · simp only [bne_iff_ne.mpr moved]
    apply concludes_record
    apply concludes_log
    apply concludes_pure

theorem delete_commits (hwho : who actor) :
  (delete policy id actor).run.Commits E policy who id (fun _ => ())
  := by
  apply Program.Commits.commit hwho deletionChange_amends deletionChange_declines
  intro done
  apply concludes_log (concludes_pure ())

theorem patchOne_commits (hwho : who actor) (p : Patch) :
  (patchOne policy id p actor).run.Commits E policy who id (fun stored => stored)
  := by
  apply Program.Commits.commit hwho patchChange_amends patchChange_declines
  intro done
  by_cases moved : done.before.status = done.after.status
  · simp only [moved, bne_self_eq_false]
    apply concludes_log
    apply concludes_pure
  · simp only [bne_iff_ne.mpr moved]
    apply concludes_recordMove
    apply concludes_log
    apply concludes_pure

/-- A submission reads, once each, the applicant, the pet, the active application, the form,
the clock and a name, and then inserts a record that is active. -/
theorem submit_transacts (hwho : who actor) (s : Submission) :
  (submit policy s actor).run.Transacts ((Rule.ofActors E policy who).on none)
    (fun stored => stored) head {}
  := by
  apply requireNone_transacts
  intro hfaults
  apply ask_transacts
  · trivial
  intro w₁ hw₁
  simp only [World.answer, stored_ok, pure_bind]
  cases w₁.directory.findUser actor.userId with
  | none => apply Program.Transacts.refused
  | some user =>
    rw [present_some, pure_bind]
    apply ask_transacts
    · trivial
    intro w₂ hw₂
    simp only [World.answer, stored_ok, pure_bind]
    cases hpet : w₂.directory.findPet s.petId with
    | none => apply Program.Transacts.refused
    | some pet =>
      rw [present_some, pure_bind]
      apply Obeys.transacts
      rw [obeys_require]
      refine ⟨fun available => ?_, fun _ => trivial⟩
      apply ask_transacts
      · rfl
      intro w₃ hw₃
      simp only [World.answer, stored_ok, pure_bind]
      cases hactive : w₃.records.findActive actor.userId pet.petId with
      | some rival => apply Program.Transacts.refused
      | none =>
        apply Obeys.transacts
        rw [obeys_require]
        refine ⟨fun _ => ?_, fun _ => trivial⟩
        apply Obeys.transacts
        rw [obeys_requireAnswers]
        refine ⟨trivial, fun w₄ hw₄ => ⟨fun hreport => ?_, fun _ => trivial⟩⟩
        apply ask_transacts
        · rfl
        intro w₅ _
        apply ask_transacts
        · rfl
        intro w₆ _
        rw [insertNew, LawfulMonad.bind_assoc, run_ask_bind]
        apply Program.Transacts.insert
        · rfl
        · rfl
        · rfl
        · rfl
        · use rfl, actor, hwho
          apply Submits.submit s _ pet hfaults ⟨w₂, hw₂, hpet⟩ (by simpa using available)
          exact ⟨w₄, hw₄, hreport⟩
        · intro stored
          apply concludes_record
          apply concludes_log
          apply concludes_pure
        · rintro (_ | _ | _ | _ | _)
          all_goals rfl

end Service

/-- Every mutation of a record commits a change of it, as one may who its actor acts as. -/
theorem Mutation.commits {E : Rehoming.World → Prop} {policy : Policy} {who : Actor → Prop}
    (m : Mutation) {id : ApplicationId} (htarget : m.target = some id)
    (hwho : ∀ actor', m.actor.ActsAs E actor' → who actor') :
  (m.service policy).run.Commits E policy who id (fun stored => m.reply stored)
  := by
  cases m with
  | submit s actor => cases htarget
  | edit id' e actor =>
    obtain rfl := Option.some.inj htarget
    exact Service.edit_commits (hwho actor .itself) e
  | decide id' d actor =>
    obtain rfl := Option.some.inj htarget
    exact Service.decideStatus_commits hwho d
  | withdraw id' w actor =>
    obtain rfl := Option.some.inj htarget
    exact Service.withdraw_commits (hwho actor .itself) w
  | check id' u actor =>
    obtain rfl := Option.some.inj htarget
    exact Service.checkReference_commits hwho u
  | attach id' u actor =>
    obtain rfl := Option.some.inj htarget
    exact Service.attach_commits (hwho actor .itself) u
  | chooseStage id' c actor =>
    obtain rfl := Option.some.inj htarget
    exact Service.chooseStage_commits hwho c
  | delete id' actor =>
    obtain rfl := Option.some.inj htarget
    exact Service.delete_commits (hwho actor .itself)
  | patch id' p actor =>
    obtain rfl := Option.some.inj htarget
    exact Service.patchOne_commits (hwho actor .itself) p

/-- Every mutation is a transaction, which writes over the record it names, or adds one if it
names none, as one may write whom its actor acts as. -/
theorem Mutation.transacts_on {E : Rehoming.World → Prop} {policy : Policy} {who : Actor → Prop}
    (m : Mutation) {head : Program (Except Refusal m.Reply)}
    (hwho : ∀ actor', m.actor.ActsAs E actor' → who actor') :
  (m.service policy).run.Transacts ((Rule.ofActors E policy who).on m.target)
    (fun stored => m.reply stored) head {}
  := by
  cases htarget : m.target with
  | some id => exact (m.commits htarget hwho).transacts
  | none =>
    cases m with
    | submit s actor => exact Service.submit_transacts (hwho actor .itself) s
    | _ => cases htarget

/-- Every mutation is a transaction, which writes what one may write whom its actor acts as. -/
theorem Mutation.transacts {E : Rehoming.World → Prop} {policy : Policy} {who : Actor → Prop}
    (m : Mutation) {head : Program (Except Refusal m.Reply)}
    (hwho : ∀ actor', m.actor.ActsAs E actor' → who actor') :
  (m.service policy).run.Transacts (Rule.ofActors E policy who) (fun stored => m.reply stored) head {}
  := (m.transacts_on hwho).of_on

end Rehoming
