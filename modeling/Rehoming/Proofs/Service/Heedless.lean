import Rehoming.Proofs.Service.Program
import Rehoming.Proofs.Service.Request
import Mathlib.Tactic.Common
/-!
# Operations that do not heed the books

An operation heeds the books if it looks into the timeline or the audit log, or if it goes on in
different ways when it has put something in and when that has failed.  All operations but those
that show timelines are heedless.  What heedless operations are composed of is heedless.
-/

namespace Rehoming

/-- Whether a call puts something into the timeline or the audit log. -/
def Call.entersBooks : Call → Bool
  | .record _ | .log _ => true
  | _ => false

/-- Whether a call looks into the timeline. -/
def Call.looksIntoBooks : Call → Bool
  | .eventsFor .. | .eventsForMany _ => true
  | _ => false

/-- That a program never looks into the books, and goes on in the same way whatever is answered
when it puts something in. -/
def Program.Heedless {α : Type} : Program α → Prop
  | .done _ => True
  | .ask call next =>
    call.looksIntoBooks = false ∧ (call.entersBooks = true → ∀ answer answer', next answer = next answer')
    ∧ ∀ answer, (next answer).Heedless

/-- That an operation does not heed the books. -/
def Service.Heedless {α : Type} (x : Service α) : Prop :=
  x.run.Heedless

variable {α β : Type}

theorem Program.heedless_done (a : α) :
  (Program.done a).Heedless
  := trivial

theorem Program.Heedless.bind {p : Program α} {f : α → Program β} (h : p.Heedless)
    (hf : ∀ a, (f a).Heedless) :
  (p.bind f).Heedless
  := by
  induction p with
  | done a => apply hf
  | ask call next ih =>
    obtain ⟨hlooks, hsame, hnext⟩ := h
    refine ⟨hlooks, ?_, ?_⟩
    · intro henters answer answer'
      exact congrArg (Program.bind · f) (hsame henters answer answer')
    · intro answer
      apply ih answer (hnext answer)

namespace Service

/-! ### Steps -/

theorem heedless_pure (a : α) :
  (pure a : Service α).Heedless
  := trivial

theorem heedless_throw (e : Refusal) :
  (throw e : Service α).Heedless
  := trivial

theorem Heedless.bind {x : Service α} {f : α → Service β} (h : x.Heedless)
    (hf : ∀ a, (f a).Heedless) :
  (x >>= f).Heedless
  := by
  rw [Heedless, run_bind]
  apply Program.Heedless.bind h
  rintro (e | a)
  · apply Program.heedless_done
  · apply hf

theorem heedless_lift {p : Program α} (h : p.Heedless) :
  (ExceptT.lift p : Service α).Heedless
  := h.bind fun _ => trivial

/-- Asking for anything that is not in the books. -/
theorem heedless_ask {call : Call} (hlooks : call.looksIntoBooks = false)
    (henters : call.entersBooks = false) :
  (ask call).Heedless
  := by
  refine ⟨hlooks, ?_, fun _ => trivial⟩
  rw [henters]
  rintro ⟨⟩

theorem heedless_ofExcept {r : Except Refusal α} :
  (ofExcept r).Heedless
  := by
  cases r with
  | ok a => apply heedless_pure
  | error e => apply heedless_throw

theorem heedless_stored {r : Except StoreError α} :
  (stored r).Heedless
  := by
  cases r with
  | ok a => apply heedless_pure
  | error e => apply heedless_throw

theorem heedless_present {missing : Refusal} {found : Option α} :
  (present missing found).Heedless
  := by
  cases found with
  | some a => apply heedless_pure
  | none => apply heedless_throw

theorem heedless_allowed {r : Except TransitionRefused α} :
  (allowed r).Heedless
  := by
  cases r with
  | ok a => apply heedless_pure
  | error refused => apply heedless_throw

theorem heedless_require {condition : Bool} {e : Refusal} :
  (require condition e).Heedless
  := by
  cases condition with
  | true => apply heedless_pure
  | false => apply heedless_throw

/-- Asking a store for something that is not in the books, and going on with what it answers. -/
theorem Heedless.ask_stored_bind {call : Call} {f : call.Answer → Except StoreError α}
    {g : α → Service β} (hlooks : call.looksIntoBooks = false) (henters : call.entersBooks = false)
    (hg : ∀ a, (g a).Heedless) :
  (ask call >>= fun answer => stored (f answer) >>= g).Heedless
  := (heedless_ask hlooks henters).bind fun _ => heedless_stored.bind hg

theorem heedless_resolve {actor : Actor} :
  (resolve actor).Heedless
  := by
  rw [resolve]
  split
  · apply Heedless.ask_stored_bind rfl rfl
    intro rescue
    apply heedless_pure
  · apply heedless_pure

theorem heedless_reportOn {rescue : RescueId} {answers : Answers} :
  (reportOn rescue answers).Heedless
  := by
  apply Heedless.ask_stored_bind rfl rfl
  intro questions
  apply heedless_pure

theorem heedless_requireAnswers {rescue : RescueId} {answers : Answers} :
  (requireAnswers rescue answers).Heedless
  := heedless_reportOn.bind fun _ => heedless_require

theorem heedless_insertNew {a : Application} :
  (insertNew a).Heedless
  := by
  apply Heedless.bind (heedless_ask rfl rfl)
  rintro ((_ | _ | _ | _ | _) | stored)
  case ok => apply heedless_pure
  all_goals apply heedless_throw

/-! ### Keeping the books -/

/-- An event that is lost is not missed. -/
theorem heedless_record {event : String → TimelineEvent} :
  (record event).Heedless
  := by
  apply Heedless.bind (heedless_ask rfl rfl)
  intro id
  exact ⟨rfl, fun _ _ _ => rfl, fun _ => trivial⟩

theorem heedless_log {entry : String → AuditEntry} :
  (log entry).Heedless
  := by
  apply Heedless.bind (heedless_ask rfl rfl)
  intro id
  exact ⟨rfl, fun _ _ _ => rfl, fun _ => trivial⟩

theorem heedless_recordMove {done : Moved} {user : UserId} {reason notes : Option String} :
  (recordMove done user reason notes).Heedless
  := by
  apply heedless_record.bind
  rintro ⟨⟩
  cases done.outcome with
  | none => apply heedless_pure
  | some move => apply heedless_record

theorem heedless_record_log {event : String → TimelineEvent} {entry : String → AuditEntry}
    {a : α} :
  (record event >>= fun _ => log entry >>= fun _ => pure a).Heedless
  := heedless_record.bind fun _ => heedless_log.bind fun _ => heedless_pure a

theorem heedless_recordMove_log {done : Moved} {user : UserId} {reason notes : Option String}
    {entry : String → AuditEntry} {a : α} :
  (recordMove done user reason notes >>= fun _ => log entry >>= fun _ => pure a).Heedless
  := heedless_recordMove.bind fun _ => heedless_log.bind fun _ => heedless_pure a

/-! ### Commits -/

section Commit

variable {policy : Policy} {id : ApplicationId} {change : Change α}

theorem Heedless.attempt {late : Nat → Nat → Service (Committed α)}
    (hchange : ∀ a now, (change a now).Heedless)
    (hlate : ∀ expected current, (late expected current).Heedless) :
  (attempt policy id change late).Heedless
  := by
  apply Heedless.ask_stored_bind rfl rfl
  intro found
  apply heedless_present.bind
  intro before
  apply Heedless.bind (heedless_ask rfl rfl)
  intro now
  apply (hchange before now).bind
  rintro ⟨draft, outcome⟩
  apply Heedless.bind (heedless_ask rfl rfl)
  rintro ((_ | _ | ⟨expected, current⟩ | _ | _) | after)
  case error.staleWrite => apply hlate
  case ok => apply heedless_pure
  all_goals apply heedless_throw

theorem Heedless.commit (hchange : ∀ a now, (change a now).Heedless) (retries : Nat) :
  (commit policy id change retries).Heedless
  := by
  induction retries with
  | zero =>
    apply Heedless.attempt hchange
    intro expected current
    apply heedless_throw
  | succ left ih =>
    apply Heedless.attempt hchange
    intro expected current
    apply ih

end Commit

/-! ### Changes -/

section Change

variable {actor : Actor} (a : Application) (now : Time.Instant)

theorem heedless_editChange (e : Edit) :
  (editChange e actor a now).Heedless
  := by
  apply heedless_require.bind
  rintro ⟨⟩
  apply heedless_require.bind
  rintro ⟨⟩
  cases e.answers with
  | none => apply heedless_pure
  | some answers => apply heedless_requireAnswers.bind fun _ => heedless_pure _

theorem heedless_decisionChange (c : Decision) :
  (decisionChange c actor a now).Heedless
  := heedless_require.bind fun _ => heedless_allowed

theorem heedless_withdrawalChange (c : Withdrawal) :
  (withdrawalChange c actor a now).Heedless
  := heedless_require.bind fun _ => heedless_allowed

theorem heedless_checkChange (u : ReferenceUpdate) (index : Nat) :
  (checkChange u index actor a now).Heedless
  := heedless_require.bind fun _ => heedless_pure _

theorem heedless_uploadChange (u : Upload) :
  (uploadChange u actor a now).Heedless
  := heedless_require.bind fun _ => (heedless_ask rfl rfl).bind fun _ => heedless_pure _

theorem heedless_stageChange (c : StageChoice) :
  (stageChange c actor a now).Heedless
  := heedless_require.bind fun _ => heedless_require.bind fun _ => heedless_pure _

theorem heedless_deletionChange :
  (deletionChange actor a now).Heedless
  := heedless_require.bind fun _ => heedless_require.bind fun _ => heedless_pure _

theorem heedless_patchChange (p : Patch) :
  (patchChange p actor a now).Heedless
  := heedless_require.bind fun _ => heedless_allowed

end Change

/-! ### The operations -/

section Operation

variable {policy : Policy} {actor : Actor} {id : ApplicationId}

theorem heedless_submit (s : Submission) :
  (submit policy s actor).Heedless
  := by
  apply heedless_require.bind
  rintro ⟨⟩
  apply Heedless.ask_stored_bind rfl rfl
  intro user
  apply heedless_present.bind
  intro user
  apply Heedless.ask_stored_bind rfl rfl
  intro pet
  apply heedless_present.bind
  intro pet
  apply heedless_require.bind
  rintro ⟨⟩
  apply Heedless.ask_stored_bind rfl rfl
  intro active
  apply heedless_require.bind
  rintro ⟨⟩
  apply heedless_requireAnswers.bind
  rintro ⟨⟩
  apply Heedless.bind (heedless_ask rfl rfl)
  intro now
  apply Heedless.bind (heedless_ask rfl rfl)
  intro name
  apply heedless_insertNew.bind
  intro a
  apply heedless_record_log

theorem heedless_edit (e : Edit) :
  (edit policy id e actor).Heedless
  := by
  apply heedless_require.bind
  rintro ⟨⟩
  apply (Heedless.commit (heedless_editChange · · e) _).bind
  intro done
  split
  · apply heedless_record_log
  · apply heedless_pure

theorem heedless_decideStatus (c : Decision) :
  (decideStatus policy id c actor).Heedless
  := by
  apply heedless_resolve.bind
  intro actor'
  apply (Heedless.commit (heedless_decisionChange · · c) _).bind
  intro done
  apply heedless_recordMove_log

theorem heedless_withdraw (c : Withdrawal) :
  (withdraw policy id c actor).Heedless
  := by
  apply (Heedless.commit (heedless_withdrawalChange · · c) _).bind
  intro done
  apply heedless_recordMove_log

theorem heedless_checkReference (u : ReferenceUpdate) :
  (checkReference policy id u actor).Heedless
  := by
  apply heedless_ofExcept.bind
  intro index
  apply heedless_resolve.bind
  intro actor'
  apply (Heedless.commit (heedless_checkChange · · u index) _).bind
  intro done
  split
  · apply heedless_record_log
  · apply heedless_pure

theorem heedless_attach (u : Upload) :
  (attach policy id u actor).Heedless
  := by
  apply heedless_require.bind
  rintro ⟨⟩
  apply (Heedless.commit (heedless_uploadChange · · u) _).bind
  intro done
  apply heedless_record_log

theorem heedless_chooseStage (c : StageChoice) :
  (chooseStage policy id c actor).Heedless
  := by
  apply heedless_require.bind
  rintro ⟨⟩
  apply heedless_resolve.bind
  intro actor'
  apply (Heedless.commit (heedless_stageChange · · c) _).bind
  intro done
  split
  · apply heedless_record_log
  · apply heedless_pure

theorem heedless_delete :
  (delete policy id actor).Heedless
  := (Heedless.commit heedless_deletionChange _).bind fun _ => heedless_log

theorem heedless_patchOne (p : Patch) :
  (patchOne policy id p actor).Heedless
  := by
  apply (Heedless.commit (heedless_patchChange · · p) _).bind
  intro done
  split
  · apply heedless_recordMove_log
  · apply heedless_log.bind fun _ => heedless_pure _

theorem heedless_patchEach (p : Patch) (ids : List ApplicationId) :
  (patchEach policy p actor ids).Heedless
  := by
  induction ids with
  | nil => apply Program.heedless_done
  | cons id rest ih =>
    apply Program.Heedless.bind (heedless_patchOne p)
    intro outcome
    apply ih.bind
    intro result
    cases outcome with
    | ok a => apply Program.heedless_done
    | error refusal => apply Program.heedless_done

theorem heedless_applyBatch (b : Batch) :
  (applyBatch policy b actor).Heedless
  := by
  apply heedless_require.bind
  rintro ⟨⟩
  apply heedless_resolve.bind
  intro actor'
  apply heedless_require.bind
  rintro ⟨⟩
  apply heedless_lift (heedless_patchEach b.updates b.applicationIds)

theorem heedless_read (includeDeleted : Bool) :
  (read id actor includeDeleted).Heedless
  := by
  apply heedless_resolve.bind
  intro actor'
  apply Heedless.ask_stored_bind rfl rfl
  rintro (_ | a)
  · apply heedless_pure
  · apply heedless_require.bind fun _ => heedless_pure _

theorem heedless_textSearch (s : Option String) :
  (textSearch s).Heedless
  := by
  rw [textSearch]
  split
  · apply heedless_pure
  · apply Heedless.ask_stored_bind rfl rfl
    intro users
    apply Heedless.ask_stored_bind rfl rfl
    intro pets
    apply heedless_pure

theorem heedless_search (filters : Filters) (options : SearchOptions) :
  (search policy filters options actor).Heedless
  := by
  apply heedless_resolve.bind
  intro actor'
  apply heedless_require.bind
  rintro ⟨⟩
  apply (heedless_textSearch _).bind
  intro text
  apply Heedless.ask_stored_bind rfl rfl
  intro page
  apply heedless_pure

theorem heedless_statistics (rescue : Option RescueId) :
  (statistics rescue actor).Heedless
  := by
  apply heedless_resolve.bind
  intro actor'
  apply heedless_require.bind
  rintro ⟨⟩
  apply Heedless.ask_stored_bind rfl rfl
  intro apps
  apply heedless_pure

end Operation

end Service

/-- No mutation heeds the books. -/
theorem Mutation.heedless (policy : Policy) (m : Mutation) :
  (m.service policy).Heedless
  := by
  cases m with
  | submit s actor => apply Service.heedless_submit
  | edit id e actor => apply Service.heedless_edit
  | decide id c actor => apply Service.heedless_decideStatus
  | withdraw id c actor => apply Service.heedless_withdraw
  | check id u actor => apply Service.heedless_checkReference
  | attach id u actor => apply Service.heedless_attach
  | chooseStage id c actor => apply Service.heedless_chooseStage
  | delete id actor => apply Service.heedless_delete
  | patch id p actor => apply Service.heedless_patchOne

/-- Whether a request shows what is in the timeline. -/
def Request.showsTimeline : Request → Bool
  | timeline .. | timelineStats .. | activity .. => true
  | _ => false

/-- No request heeds the books but those that show timelines. -/
theorem Request.heedless {r : Request} (h : r.showsTimeline = false) (policy : Policy) :
  (r.service policy).Heedless
  := by
  cases r with
  | mutation m => apply m.heedless
  | batch b actor => apply Service.heedless_applyBatch
  | read id actor includeDeleted => apply Service.heedless_read
  | search filters options actor => apply Service.heedless_search
  | statistics rescue actor => apply Service.heedless_statistics
  | report rescue answers => apply Service.heedless_reportOn
  | timeline | timelineStats | activity => cases h

end Rehoming
