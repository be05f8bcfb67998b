import Rehoming.Proofs.Service.Amendment
import Rehoming.Proofs.Service.Request
import Rehoming.Proofs.Store.Records
/-!
# Transactions

A transaction reads, writes one record, and then only keeps the books.  If its write comes
too late it begins again, as if it had not read anything before.  Every mutation is a
transaction, and what it writes is an amendment of the record it has looked up, or the record
of a submission.
-/

namespace Rehoming

/-- What may be written: which records may be added at a time, and what may be made of a
record at a time, where some worlds answer. -/
structure Rule where
  worlds : World → Prop
  insert : Time.Instant → Application → Prop
  update : Time.Instant → Application → Application → Prop

/-- What some actors may write under a policy. -/
def Rule.ofActors (E : World → Prop) (policy : Policy) (who : Actor → Prop) : Rule where
  worlds := E
  insert now a := ∃ actor, who actor ∧ Submits E policy actor now a
  update now before a := ∃ actor draft, who actor ∧ Amends E policy actor now before draft
    ∧ a = draft.stamp now policy.ttlDays

/-- A rule for writing over the record of one name only, or for adding records only. -/
def Rule.on (R : Rule) (target : Option ApplicationId) : Rule :=
  { R with
    insert := fun now a => target = none ∧ R.insert now a
    update := fun now before a => target = some before.applicationId ∧ R.update now before a }

/-- The calls that keep the books: fresh names, events and entries. -/
def Call.isBookkeeping : Call → Bool
  | .fresh _ | .record _ | .log _ => true
  | _ => false

/-- That a program only keeps the books and then returns a value. -/
inductive Program.Concludes {α : Type} : Program α → α → Prop
  | done (a : α) : Concludes (.done a) a
  | ask {call next a} :
      call.isBookkeeping = true → (∀ w, Concludes (next (World.answer call w).1) a) →
      Concludes (.ask call next) a

/-- Why an insertion is refused. -/
def insertRefusal (a : Application) : StoreError → Refusal
  | .uniqueViolation _ => .duplicateActiveApplication a.userId a.petId
  | e => .store e

/-- That a program that has learnt `σ` is a transaction, or the rest of one, which writes by
a rule and answers `reply stored` once it has stored a record.  A transaction that looks up a
record has its `head` there: begun again it does what it would do from its head on. -/
inductive Program.Transacts {β : Type} (R : Rule) (reply : Application → β) :
    (p head : Program (Except Refusal β)) → Sight → Prop
  | refused {head σ} (e : Refusal) : Transacts R reply (.done (.error e)) head σ
  | read {head call next σ} :
      σ.permits call →
      (∀ w, R.worlds w → Transacts R reply (next (World.answer call w).1) head
        (σ.after call (World.answer call w).1)) →
      Transacts R reply (.ask call next) head σ
  | fetch {head id next} :
      (∀ w, R.worlds w → Transacts R reply (next (.ok (w.records.fetch id false)))
        (.ask (.fetch id false) next) { found := some (id, w.records.fetch id false) }) →
      Transacts R reply (.ask (.fetch id false) next) head {}
  | insert {head a next σ now} :
      σ.found = none → σ.active = some (a.userId, a.petId, none) → a.isActive = true →
      σ.clock = some now → R.insert now a →
      (∀ stored, (next (.ok stored)).Concludes (.ok (reply stored))) →
      (∀ e, next (.error e) = .done (.error (insertRefusal a e))) →
      Transacts R reply (.ask (.insert a) next) head σ
  | update {head a before next σ now} :
      σ.found = some (before.applicationId, some before) → σ.active = none →
      a.applicationId = before.applicationId → σ.clock = some now → R.update now before a →
      (∀ stored, (next (.ok stored)).Concludes (.ok (reply stored))) →
      (∀ e, Transacts R reply (next (.error e)) head {}) →
      (∀ e, (∃ refusal, next (.error e) = .done (.error refusal))
        ∨ ∀ w, R.worlds w → head.run World.answer w = (next (.error e)).run World.answer w) →
      Transacts R reply (.ask (.update a before.version) next) head σ

variable {α β γ : Type} {R : Rule} {reply : Application → β} {σ : Sight}
  {head : Program (Except Refusal β)}

/-! ### Reading first -/

/-- What reads and then goes on as a transaction is a transaction. -/
theorem Program.Obeys.transacts {p : Program α}
    {f : α → Program (Except Refusal β)}
    (h : p.Obeys (reading R.worlds) (fun σ a => (f a).Transacts R reply head σ) σ) :
  (p.bind f).Transacts R reply head σ
  := by
  induction p generalizing σ with
  | done a => apply h
  | ask call next ih =>
    rw [Program.ask_bind]
    apply Program.Transacts.read h.1
    intro w hw
    apply ih
    apply h.2 w hw

/-- A transaction by a rule is one by a laxer rule for the same worlds. -/
theorem Program.Transacts.mono {R' : Rule} {p : Program (Except Refusal β)}
    (h : p.Transacts R reply head σ) (hworlds : R'.worlds = R.worlds)
    (hinsert : ∀ now a, R.insert now a → R'.insert now a)
    (hupdate : ∀ now before a, R.update now before a → R'.update now before a) :
  p.Transacts R' reply head σ
  := by
  induction h with
  | refused e => exact .refused e
  | read hpermits hnext ih =>
    apply Transacts.read hpermits
    rw [hworlds]
    exact ih
  | fetch hnext ih =>
    apply Transacts.fetch
    rw [hworlds]
    exact ih
  | insert hfound hactive active hclock hrule hok herror =>
    exact .insert hfound hactive active hclock (hinsert _ _ hrule) hok herror
  | update hfound hactive hname hclock hrule hok hlate hagain ih =>
    apply Transacts.update hfound hactive hname hclock (hupdate _ _ _ hrule) hok ih
    rw [hworlds]
    exact hagain

/-- A transaction that writes over the record of one name is one that writes by the rule. -/
theorem Program.Transacts.of_on {target : Option ApplicationId} {p : Program (Except Refusal β)}
    (h : p.Transacts (R.on target) reply head σ) :
  p.Transacts R reply head σ
  := h.mono rfl (fun _ _ hinsert => hinsert.2) (fun _ _ _ hupdate => hupdate.2)

/-- A transaction goes on, after any answer, as a transaction or by keeping the books. -/
theorem Program.Transacts.answer {call : Call} {next : call.Answer → Program (Except Refusal β)}
    (h : (ask call next).Transacts R reply head σ) {w : Rehoming.World} (hw : R.worlds w) :
  (∃ head', (next (World.answer call w).1).Transacts R reply head'
    (σ.after call (World.answer call w).1))
  ∨ ∃ stored, (next (World.answer call w).1).Concludes (.ok (reply stored))
  := by
  cases h with
  | read hpermits hnext =>
    left
    use head
    apply hnext w hw
  | @fetch head id next hnext =>
    left
    use ask (.fetch id false) next
    apply hnext w hw
  | insert hfound hactive active hclock hrule hok herror =>
    cases hanswer : (World.answer (.insert _) w).1 with
    | ok stored => exact .inr ⟨stored, hok stored⟩
    | error e =>
      left
      use head
      rw [herror]
      apply Transacts.refused
  | update hfound hactive hname hclock hrule hok hlate hagain =>
    cases hanswer : (World.answer (.update _ _) w).1 with
    | ok stored => exact .inr ⟨stored, hok stored⟩
    | error e =>
      left
      use head
      apply hlate

namespace Service

/-- An operation that reads and then goes on as a transaction is a transaction. -/
theorem Obeys.transacts {x : Service α} {f : α → Service β}
    (h : x.Obeys (reading R.worlds) (fun σ a => (f a).run.Transacts R reply head σ)
      (fun _ _ => True) σ) :
  (x >>= f).run.Transacts R reply head σ
  := by
  rw [run_bind]
  apply Program.Obeys.transacts
  apply Program.Obeys.mono (fun _ hw => hw) (fun _ _ hcall => hcall) _ h
  rintro σ (e | a) hr
  · apply Program.Transacts.refused
  · apply hr

/-! ### Keeping the books -/

/-- A value that is returned at once. -/
theorem concludes_pure (a : α) :
  (pure a : Service α).run.Concludes (.ok a)
  := Program.Concludes.done (Except.ok a)

theorem concludes_record {event : String → TimelineEvent} {x : Service α} {a : α}
    (h : x.run.Concludes (.ok a)) :
  (record event >>= fun _ => x).run.Concludes (.ok a)
  := by
  apply Program.Concludes.ask rfl
  intro w
  apply Program.Concludes.ask rfl
  intro w'
  apply h

theorem concludes_log {entry : String → AuditEntry} {x : Service α} {a : α}
    (h : x.run.Concludes (.ok a)) :
  (log entry >>= fun _ => x).run.Concludes (.ok a)
  := by
  apply Program.Concludes.ask rfl
  intro w
  apply Program.Concludes.ask rfl
  intro w'
  apply h

/-! ### Commits -/

/-- An attempt in a world that nobody else writes to: the record found is changed and
written, and the write does not come too late. -/
theorem run_attempt {E : World → Prop} {policy : Policy} {actor : Actor} {id : ApplicationId}
    {change : Change α} (hchange : ChangeAmends E policy actor change)
    (late : Nat → Nat → Service (Committed α)) {w : World} (hw : E w) :
  (attempt policy id change late).run.run World.answer w
    = match w.records.fetch id false with
      | none => (.error (.applicationNotFound id), w)
      | some before =>
        match ((change before w.clock).run.run World.answer w).1 with
        | .error e => (.error e, w)
        | .ok (draft, outcome) =>
          let written := { draft.stamp w.clock policy.ttlDays with version := before.version + 1 }
          (.ok { before, after := written, outcome },
            { w with
              records := w.records.replace written
              attached := w.attached + w.newDocuments (draft.stamp w.clock policy.ttlDays) })
  := by
  rw [attempt, run_ask_bind, Program.run_ask]
  simp only [World.answer, stored_ok, pure_bind]
  cases hfound : w.records.fetch id false with
  | none => rfl
  | some before =>
    simp only [present_some, pure_bind]
    rw [run_ask_bind, Program.run_ask]
    simp only [World.answer]
    rw [run_bind, Program.run_bind]
    obtain ⟨hread, σ', hσ'⟩ := Program.Obeys.run_reading
      (hchange before w.clock { found := some (id, some before), clock := some w.clock } rfl) hw
    rw [hread]
    cases hr : ((change before w.clock).run.run World.answer w).1 with
    | error e => rfl
    | ok r =>
      obtain ⟨draft, outcome⟩ := r
      rw [hr] at hσ'
      obtain ⟨-, -, -, hamends⟩ := hσ'
      obtain ⟨hstored, -⟩ := Records.fetch_eq_some_iff.mp hfound
      have hname : (draft.stamp w.clock policy.ttlDays).applicationId = id :=
        hamends.applicationId.trans (Records.applicationId_of_find? hstored)
      have hupdate : w.records.update (draft.stamp w.clock policy.ttlDays) before.version
          = .ok ({ draft.stamp w.clock policy.ttlDays with version := before.version + 1 },
              w.records.replace
                { draft.stamp w.clock policy.ttlDays with version := before.version + 1 }) := by
        apply Records.update_eq_ok_iff.mpr
        rw [← hname] at hstored
        exact ⟨before, hstored, rfl, rfl, rfl⟩
      simp only [onward]
      rw [run_ask_bind, Program.run_ask]
      simp only [World.answer, World.update, hupdate]
      rfl

section Commit

variable {E : World → Prop} {policy : Policy} {who : Actor → Prop} {actor : Actor}
  {id : ApplicationId} {change : Change α} {reply : Application → β}
  {tail : Committed α → Service β}

/-- However often a commit would start over, in a world that nobody else writes to it does
what an attempt does. -/
theorem run_commit (hchange : ChangeAmends E policy actor change) {w : World} (hw : E w)
    (late : Nat → Nat → Service (Committed α)) (retries : Nat) :
  (commit policy id change retries).run.run World.answer w
    = (attempt policy id change late).run.run World.answer w
  := by
  cases retries with
  | zero => rw [commit, run_attempt hchange _ hw, run_attempt hchange _ hw]
  | succ left => rw [commit, run_attempt hchange _ hw, run_attempt hchange _ hw]

/-- An attempt is a transaction if what it does when its write comes too late is one, and is
either a refusal or what the attempt itself does when it is alone. -/
theorem attempt_transacts {late : Nat → Nat → Service (Committed α)}
    {head : Program (Except Refusal β)} (hwho : who actor)
    (hchange : ChangeAmends E policy actor change)
    (htail : ∀ done, (tail done).run.Concludes (.ok (reply done.after)))
    (hlate : ∀ expected current head, (late expected current >>= tail).run.Transacts
      ((Rule.ofActors E policy who).on (some id)) reply head {})
    (hagain : ∀ expected current,
      (∃ refusal, (late expected current >>= tail).run = .done (.error refusal))
      ∨ ∀ w, E w → (attempt policy id change late >>= tail).run.run World.answer w
          = (late expected current >>= tail).run.run World.answer w) :
  (attempt policy id change late >>= tail).run.Transacts ((Rule.ofActors E policy who).on (some id))
    reply head {}
  := by
  -- The attempt is opened up on both sides at once: what a late write leads to has to equal
  -- the head, and that is the look-up with which the attempt begins.
  generalize hagainst : (attempt policy id change late >>= tail).run = against at hagain
  rw [attempt, LawfulMonad.bind_assoc, run_ask_bind] at hagainst
  rw [← hagainst] at hagain ⊢
  apply Program.Transacts.fetch
  intro w hw
  rw [stored_ok, pure_bind, LawfulMonad.bind_assoc]
  cases hfound : w.records.fetch id false with
  | none => apply Program.Transacts.refused
  | some before =>
    obtain ⟨hstored, -⟩ := Records.fetch_eq_some_iff.mp hfound
    obtain rfl := Records.applicationId_of_find? hstored
    rw [present_some, pure_bind, LawfulMonad.bind_assoc, run_ask_bind]
    apply Program.Transacts.read
    · rfl
    intro w' _
    rw [LawfulMonad.bind_assoc]
    apply Obeys.transacts
    apply Obeys.mono (fun _ hw => hw) (fun _ _ hcall => hcall) _ (fun _ _ h => h)
      (hchange before w'.clock _ rfl)
    rintro σ ⟨draft, outcome⟩ ⟨hclock, hbefore, hactive, hamends⟩
    rw [LawfulMonad.bind_assoc, run_ask_bind]
    have hname : (draft.stamp w'.clock policy.ttlDays).applicationId = before.applicationId :=
      hamends.applicationId
    apply Program.Transacts.update hbefore hactive hname hclock
    · use rfl, actor, draft
      exact ⟨hwho, hamends, rfl⟩
    · intro stored
      apply htail
    · rintro (_ | _ | ⟨expected, current⟩ | _ | _)
      case staleWrite => apply hlate
      all_goals apply Program.Transacts.refused
    · rintro (_ | _ | ⟨expected, current⟩ | _ | _)
      case staleWrite => apply hagain
      all_goals exact .inl ⟨_, rfl⟩

/-- A commit that is followed by bookkeeping is a transaction. -/
theorem commit_transacts {retries : Nat} {head : Program (Except Refusal β)}
    (hwho : who actor) (hchange : ChangeAmends E policy actor change)
    (htail : ∀ done, (tail done).run.Concludes (.ok (reply done.after))) :
  (commit policy id change retries >>= tail).run.Transacts ((Rule.ofActors E policy who).on (some id))
    reply head {}
  := by
  induction retries generalizing head with
  | zero =>
    apply attempt_transacts hwho hchange htail
    · intro expected current head
      apply Program.Transacts.refused
    · intro expected current
      exact .inl ⟨_, rfl⟩
  | succ left ih =>
    apply attempt_transacts hwho hchange htail
    · intro expected current head
      apply ih
    · intro expected current
      right
      intro w hw
      rw [run_bind, run_bind, Program.run_bind, Program.run_bind, run_commit hchange hw]

end Commit

end Service

end Rehoming
