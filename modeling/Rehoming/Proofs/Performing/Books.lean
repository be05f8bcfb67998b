import Rehoming.Proofs.Performing.Commit
/-!
# What mutations enter into the books

A mutation that runs alone is refused, or it files a record, or it makes an amendment of one;
and each kind of amendment has its own events and its own audit entry.  An edit that changes
no field and the choice of the stage that an application has already leave no trace there.
-/

namespace Rehoming

open Service

/-- The events of a change of status: one for the status, and one for the stage if that has
moved. -/
def Service.moveEvents (done : Moved) (user : UserId) (reason notes : Option String)
    (name name' : String) : List TimelineEvent :=
  statusEvent done user reason notes name
    :: done.outcome.toList.map fun move => stageEvent done move name'

/-- What a mutation that amends the record `before` at a time makes of it before the times of
the write are put in, and which events and entries tell of it when the record `after` has been
written. -/
inductive Mutation.Enacts (now : Time.Instant) (before after : Application) :
    Mutation → Application → List TimelineEvent → List AuditEntry → Prop
  | edit (id : ApplicationId) (e : Edit) (actor : Actor) (name entry : String) :
      before.status = .submitted → e.changes before ≠ [] →
      Enacts now before after (.edit id e actor) (e.applyTo before)
        [editedEvent after (e.changes before) actor.userId name]
        [editedEntry before after (e.changes before) actor.userId entry]
  | editInVain (id : ApplicationId) (e : Edit) (actor : Actor) :
      before.status = .submitted → e.changes before = [] →
      Enacts now before after (.edit id e actor) (e.applyTo before) [] []
  | decide (id : ApplicationId) (d : Decision) (actor : Actor) (draft : Application)
      (move : Option Application.StageMove) (name name' entry : String) :
      d.applyTo before actor.userId now = .ok (draft, move) →
      Enacts now before after (.decide id d actor) draft
        (moveEvents { before, after, outcome := move } actor.userId d.reason d.notes name name')
        [statusEntry .applicationStatusUpdated { before, after, outcome := move } actor.userId
          d.reason d.notes entry]
  | withdraw (id : ApplicationId) (w : Withdrawal) (actor : Actor) (draft : Application)
      (move : Option Application.StageMove) (name name' entry : String) :
      w.applyTo before actor.userId now = .ok (draft, move) →
      Enacts now before after (.withdraw id w actor) draft
        (moveEvents { before, after, outcome := move } actor.userId w.reason none name name')
        [statusEntry .withdraw { before, after, outcome := move } actor.userId w.reason none entry]
  | check (id : ApplicationId) (u : ReferenceUpdate) (actor : Actor) (index : Nat)
      (slot : Reference) (added : Nat) (previous : Option ReferenceStatus) (name entry : String) :
      Enacts now before after (.check id u actor)
        { before with
          references := u.apply index (Reference.ensureSlot before.references index before.answers) }
        [checkedEvent after slot index added actor.userId name]
        [checkedEntry after slot added previous actor.userId entry]
  | attach (id : ApplicationId) (u : Upload) (actor : Actor) (document name entry : String) :
      Enacts now before after (.attach id u actor)
        { before with documents := before.documents ++ [u.document document now] }
        [uploadedEvent after (u.document document now) actor.userId name]
        [uploadedEntry after (u.document document now) actor.userId entry]
  | chooseStage (id : ApplicationId) (c : StageChoice) (actor : Actor) (name entry : String) :
      c.faults = [] → before.status = .submitted → before.stage ≠ c.stage →
      Enacts now before after (.chooseStage id c actor) (c.applyTo before)
        [stageChosenEvent after before.stage c actor.userId name]
        [stageChosenEntry after before.stage actor.userId entry]
  | keepStage (id : ApplicationId) (c : StageChoice) (actor : Actor) :
      c.faults = [] → before.status = .submitted → before.stage = c.stage →
      Enacts now before after (.chooseStage id c actor) (c.applyTo before) [] []
  | delete (id : ApplicationId) (actor : Actor) (entry : String) :
      before.status = .submitted →
      Enacts now before after (.delete id actor) (before.delete now) []
        [deletedEntry after actor.userId entry]
  | label (id : ApplicationId) (p : Patch) (actor : Actor) (entry : String) :
      p.status = none →
      Enacts now before after (.patch id p actor) (p.label before) []
        [patchedEntry p { before, after, outcome := none } actor.userId entry]
  | patch (id : ApplicationId) (p : Patch) (actor : Actor) (target : Status) (draft : Application)
      (move : Option Application.StageMove) (name name' entry : String) :
      p.status = some target → p.applyTo before actor.userId now = .ok (draft, move) →
      Enacts now before after (.patch id p actor) draft
        (moveEvents { before, after, outcome := move } actor.userId none p.notes name name')
        [patchedEntry p { before, after, outcome := move } actor.userId entry]

/-- What is made of a record has its name. -/
theorem Mutation.Enacts.applicationId {m : Mutation} {now : Time.Instant}
    {before after draft : Application} {events : List TimelineEvent} {entries : List AuditEntry}
    (h : m.Enacts now before after draft events entries) :
  draft.applicationId = before.applicationId
  := by
  cases h with
  | edit | editInVain | check | attach | delete => rfl
  | decide _ _ _ _ _ _ _ _ happlied =>
    obtain ⟨-, -, rfl⟩ := Decision.applyTo_eq_ok happlied
    rfl
  | withdraw _ _ _ _ _ _ _ _ happlied =>
    obtain ⟨-, rfl⟩ := Withdrawal.applyTo_eq_ok happlied
    rfl
  | chooseStage _ c | keepStage _ c => rw [c.applyTo_eq]
  | label => rw [Patch.label, Application.appendIfAny_eq]
  | patch _ _ _ _ _ _ _ _ _ _ happlied =>
    obtain ⟨-, rfl⟩ | ⟨-, -, -, -, rfl⟩ := Patch.applyTo_eq_ok happlied
    · rfl
    · rfl

/-- How a mutation that runs alone and answers `reply stored` for a stored record ends: it is
refused and changes nothing, or it files a record, or it amends one that is not deleted. -/
inductive Mutation.Ends {β : Type} (policy : Policy) (w : World) (m : Mutation)
    (reply : Application → β) : Except Refusal β × World → Prop
  | refused (e : Refusal) : Ends policy w m reply (.error e, w)
  | filed (s : Submission) (actor : Actor) (a : Application) (petName name entry : String) :
      m = .submit s actor → w.drafted policy s actor = .ok (a, petName) →
      w.records.insert a = .ok (w.records ++ [a]) →
      Ends policy w m reply
        (.ok (reply a), (w.file a).enter [submittedEvent a petName w.clock name]
          [submittedEntry a w.clock entry])
  | amended (before draft : Application) (events : List TimelineEvent) (entries : List AuditEntry) :
      m.target = some before.applicationId → w.records.find? before.applicationId = some before →
      before.isDeleted = false →
      m.Enacts w.clock before (draft.rewritten before policy.ttlDays w.clock) draft events entries →
      Ends policy w m reply
        (.ok (reply (draft.rewritten before policy.ttlDays w.clock)),
          (w.write (draft.rewritten before policy.ttlDays w.clock)).enter events entries)

/-- The list of references grows until it has the slot that is meant. -/
theorem Reference.lt_length_ensureSlot (slots : List Reference) (index : Nat) (answers : Answers) :
  index < (ensureSlot slots index answers).length
  := by
  rw [ensureSlot]
  split
  next hlisted => exact hlisted
  next =>
    simp only [List.length_append, placeholders, List.length_map, List.length_range]
    omega

namespace Service

variable {policy : Policy} {w : World} {id : ApplicationId} {actor : Actor}

theorem perform_recordMove_log_bind {β : Type} (done : Moved) (user : UserId)
    (reason notes : Option String) (entry : String → AuditEntry) (x : Service β) :
  ∃ name name' name'', w.perform (recordMove done user reason notes >>= fun _ => log entry >>= fun _ => x)
    = (w.enter (moveEvents done user reason notes name name') [entry name'']).perform x
  := by
  rw [recordMove, bind_assoc, World.perform_record_bind]
  cases hmove : done.outcome with
  | none =>
    simp only [pure_bind, World.perform_log_bind, World.enter_enter, moveEvents, hmove]
    exact ⟨_, "", _, rfl⟩
  | some move =>
    simp only [World.perform_record_log_bind, World.enter_enter, moveEvents, hmove]
    exact ⟨_, _, _, rfl⟩

/-- A mutation that commits a change ends as it must if what comes after the commit enters into
the books what tells of the change, and then answers the record. -/
theorem ends_of_commit {α β : Type} {m : Mutation} {reply : Application → β} {change : Change α}
    {retries : Nat} {tail : Committed α → Service β} (htarget : m.target = some id)
    (hchange : ChangeAmends (fun _ => True) policy actor change)
    (htail : ∀ before after draft outcome,
      (w.perform (change before w.clock)).1 = .ok (draft, outcome) →
      after = draft.rewritten before policy.ttlDays w.clock →
      ∀ w' : World, ∃ events entries, m.Enacts w.clock before after draft events entries
        ∧ w'.perform (tail { before, after, outcome }) = (.ok (reply after), w'.enter events entries)) :
  m.Ends policy w reply (w.perform (commit policy id change retries >>= tail))
  := by
  obtain ⟨e, hrefused⟩ | ⟨before, draft, outcome, hfound, hdraft, hcommitted⟩ :=
    World.perform_commit_cases (w := w) hchange retries tail
  · rw [hrefused]
    exact .refused e
  · obtain ⟨hstored, hdeleted⟩ := Records.fetch_eq_some_iff.mp hfound
    obtain rfl := Records.applicationId_of_find? hstored
    obtain ⟨events, entries, henacts, hperform⟩ := htail before
      (draft.rewritten before policy.ttlDays w.clock) draft outcome hdraft rfl
      (w.write (draft.rewritten before policy.ttlDays w.clock))
    rw [hcommitted, hperform]
    refine .amended before draft events entries htarget hstored ?_ henacts
    simpa using hdeleted

/-! ### What goes through -/

private theorem mapError_eq_ok {ε ε' α : Type} {x : Except ε α} {f : ε → ε'} {a : α}
    (h : x.mapError f = .ok a) :
  x = .ok a
  := by
  cases x with
  | error e => cases h
  | ok b => exact congrArg Except.ok (Except.ok.inj h)

section Change

variable {a draft : Application} {now : Time.Instant} {move : Option Application.StageMove}

theorem editChange_eq_ok {e : Edit} {changes : List String}
    (h : (w.perform (editChange e actor a now)).1 = .ok (draft, changes)) :
  a.status = .submitted ∧ draft = e.applyTo a ∧ changes = e.changes a
  := by
  rw [editChange, World.perform_requireAccess_bind, World.perform_requireSubmitted_bind] at h
  split at h
  case isFalse => cases h
  split at h
  case isFalse => cases h
  next submitted =>
    use eq_of_beq submitted
    cases hanswers : e.answers with
    | none =>
      rw [hanswers] at h
      cases h
      exact ⟨rfl, rfl⟩
    | some answers =>
      simp only [hanswers, World.perform_requireAnswers_bind] at h
      split at h
      · cases h
        exact ⟨rfl, rfl⟩
      · cases h

theorem decisionChange_eq_ok {d : Decision}
    (h : (w.perform (decisionChange d actor a now)).1 = .ok (draft, move)) :
  d.applyTo a actor.userId now = .ok (draft, move)
  := by
  rw [decisionChange, World.perform_requireAccess_bind, World.perform_allowed] at h
  split at h
  · exact mapError_eq_ok h
  · cases h

theorem withdrawalChange_eq_ok {d : Withdrawal}
    (h : (w.perform (withdrawalChange d actor a now)).1 = .ok (draft, move)) :
  d.applyTo a actor.userId now = .ok (draft, move)
  := by
  rw [withdrawalChange, World.perform_requireAccess_bind, World.perform_allowed] at h
  split at h
  · exact mapError_eq_ok h
  · cases h

theorem patchChange_eq_ok {p : Patch}
    (h : (w.perform (patchChange p actor a now)).1 = .ok (draft, move)) :
  p.applyTo a actor.userId now = .ok (draft, move)
  := by
  rw [patchChange, World.perform_requireAccess_bind, World.perform_allowed] at h
  split at h
  · exact mapError_eq_ok h
  · cases h

theorem checkChange_eq_ok {u : ReferenceUpdate} {index : Nat} {outcome : CheckOutcome}
    (h : (w.perform (checkChange u index actor a now)).1 = .ok (draft, outcome)) :
  draft = { a with references := u.apply index (Reference.ensureSlot a.references index a.answers) }
    ∧ outcome.slot = (u.apply index (Reference.ensureSlot a.references index a.answers))[index]?
  := by
  rw [checkChange, World.perform_requireAccess_bind] at h
  split at h
  · cases h
    exact ⟨rfl, rfl⟩
  · cases h

theorem uploadChange_eq_ok {u : Upload} {document : Document}
    (h : (w.perform (uploadChange u actor a now)).1 = .ok (draft, document)) :
  document = u.document (w.fresh .document) now
    ∧ draft = { a with documents := a.documents ++ [document] }
  := by
  rw [uploadChange, World.perform_requireAccess_bind] at h
  split at h
  · cases h
    exact ⟨rfl, rfl⟩
  · cases h

theorem stageChange_eq_ok {c : StageChoice} {previous : Stage}
    (h : (w.perform (stageChange c actor a now)).1 = .ok (draft, previous)) :
  a.status = .submitted ∧ draft = c.applyTo a ∧ previous = a.stage
  := by
  rw [stageChange, World.perform_requireAccess_bind, World.perform_requireSubmitted_bind] at h
  split at h
  case isFalse => cases h
  split at h
  case isFalse => cases h
  next submitted =>
    cases h
    exact ⟨eq_of_beq submitted, rfl, rfl⟩

theorem deletionChange_eq_ok {u : Unit}
    (h : (w.perform (deletionChange actor a now)).1 = .ok (draft, u)) :
  a.status = .submitted ∧ draft = a.delete now
  := by
  rw [deletionChange, World.perform_requireAccess_bind, World.perform_requireSubmitted_bind] at h
  split at h
  case isFalse => cases h
  split at h
  case isFalse => cases h
  next submitted =>
    cases h
    exact ⟨eq_of_beq submitted, rfl⟩

end Change

/-! ### The operations -/

theorem ends_edit (e : Edit) :
  (Mutation.edit id e actor).Ends policy w (fun stored => stored) (w.perform (edit policy id e actor))
  := by
  rw [edit, World.perform_requireNone_bind]
  split
  case isFalse => exact .refused _
  next hfaults =>
    apply ends_of_commit rfl (editChange_amends (List.isEmpty_iff.mp hfaults))
    intro before after draft outcome hdraft _ w'
    obtain ⟨submitted, rfl, rfl⟩ := editChange_eq_ok hdraft
    by_cases hchanges : e.changes before = []
    · refine ⟨_, _, .editInVain id e actor submitted hchanges, ?_⟩
      simp [hchanges]
    · have hentered : (!(e.changes before).isEmpty) = true := by simp [hchanges]
      simp only [hentered, if_true, World.perform_record_log_bind]
      exact ⟨_, _, .edit id e actor _ _ submitted hchanges, rfl⟩

theorem ends_decideStatus (d : Decision) :
  (Mutation.decide id d actor).Ends policy w (fun stored => stored)
    (w.perform (decideStatus policy id d actor))
  := by
  rw [decideStatus, World.perform_resolve_bind]
  apply ends_of_commit rfl decisionChange_amends
  intro before after draft move hdraft _ w'
  have happlied := decisionChange_eq_ok hdraft
  rw [Actor.resolvedIn_userId] at happlied ⊢
  obtain ⟨name, name', entry, hentered⟩ := perform_recordMove_log_bind (w := w')
    { before, after, outcome := move } actor.userId d.reason d.notes
    (statusEntry .applicationStatusUpdated { before, after, outcome := move } actor.userId d.reason
      d.notes) (pure after)
  exact ⟨_, _, .decide id d actor draft move name name' entry happlied, hentered⟩

theorem ends_withdraw (d : Withdrawal) :
  (Mutation.withdraw id d actor).Ends policy w (fun stored => stored)
    (w.perform (withdraw policy id d actor))
  := by
  rw [withdraw]
  apply ends_of_commit rfl withdrawalChange_amends
  intro before after draft move hdraft _ w'
  obtain ⟨name, name', entry, hentered⟩ := perform_recordMove_log_bind (w := w')
    { before, after, outcome := move } actor.userId d.reason none
    (statusEntry .withdraw { before, after, outcome := move } actor.userId d.reason none) (pure after)
  exact ⟨_, _, .withdraw id d actor draft move name name' entry (withdrawalChange_eq_ok hdraft), hentered⟩

theorem ends_checkReference (u : ReferenceUpdate) :
  (Mutation.check id u actor).Ends policy w (fun stored => stored)
    (w.perform (checkReference policy id u actor))
  := by
  rw [checkReference]
  cases hindex : u.resolve policy.maxReferenceSlots with
  | error e => exact .refused (Refusal.ofSlotError e)
  | ok index =>
    change Mutation.Ends policy w _ _ (w.perform (resolve actor >>= _))
    rw [World.perform_resolve_bind]
    apply ends_of_commit rfl (checkChange_amends hindex)
    intro before after draft outcome hdraft _ w'
    obtain ⟨rfl, hslot⟩ := checkChange_eq_ok hdraft
    obtain ⟨slot, hgrown⟩ : ∃ slot,
        (u.apply index (Reference.ensureSlot before.references index before.answers))[index]?
          = some slot := by
      apply Option.isSome_iff_exists.mp
      rw [isSome_getElem?, ReferenceUpdate.apply, List.length_modify]
      apply Reference.lt_length_ensureSlot
    simp only [hslot, hgrown, Actor.resolvedIn_userId, World.perform_record_log_bind]
    exact ⟨_, _, .check id u actor index slot outcome.added outcome.previous _ _, rfl⟩

theorem ends_attach (u : Upload) :
  (Mutation.attach id u actor).Ends policy w (fun stored => stored)
    (w.perform (attach policy id u actor))
  := by
  rw [attach, World.perform_requireNone_bind]
  split
  case isFalse => exact .refused _
  next hfaults =>
    apply ends_of_commit rfl (uploadChange_amends (List.isEmpty_iff.mp hfaults))
    intro before after draft document hdraft _ w'
    obtain ⟨rfl, rfl⟩ := uploadChange_eq_ok hdraft
    rw [World.perform_record_log_bind]
    exact ⟨_, _, .attach id u actor _ _ _, rfl⟩

theorem ends_chooseStage (c : StageChoice) :
  (Mutation.chooseStage id c actor).Ends policy w (fun stored => stored)
    (w.perform (chooseStage policy id c actor))
  := by
  rw [chooseStage, World.perform_requireNone_bind]
  split
  case isFalse => exact .refused _
  next hfaults =>
    have hchoice := List.isEmpty_iff.mp hfaults
    rw [World.perform_resolve_bind]
    apply ends_of_commit rfl (stageChange_amends hchoice)
    intro before after draft previous hdraft hwritten w'
    obtain ⟨submitted, rfl, rfl⟩ := stageChange_eq_ok hdraft
    have hafter : after.stage = c.stage := by
      rw [hwritten, c.applyTo_eq]
      rfl
    by_cases hkept : before.stage = c.stage
    · refine ⟨_, _, .keepStage id c actor hchoice submitted hkept, ?_⟩
      simp [hafter, hkept]
    · have hmoved : (before.stage != after.stage) = true := by simp [hafter, hkept]
      simp only [hmoved, if_true, Actor.resolvedIn_userId, World.perform_record_log_bind]
      exact ⟨_, _, .chooseStage id c actor _ _ hchoice submitted hkept, rfl⟩

theorem ends_delete :
  (Mutation.delete id actor).Ends policy w (fun _ => ()) (w.perform (delete policy id actor))
  := by
  rw [delete]
  apply ends_of_commit rfl deletionChange_amends
  intro before after draft outcome hdraft _ w'
  obtain ⟨submitted, rfl⟩ := deletionChange_eq_ok hdraft
  refine ⟨[], _, .delete id actor (w'.fresh .entry) submitted, ?_⟩
  apply World.perform_log_bind _ (pure ())

theorem ends_patchOne (p : Patch) :
  (Mutation.patch id p actor).Ends policy w (fun stored => stored)
    (w.perform (patchOne policy id p actor))
  := by
  rw [patchOne]
  apply ends_of_commit rfl patchChange_amends
  intro before after draft move hdraft hwritten w'
  have happlied := patchChange_eq_ok hdraft
  cases htarget : p.status with
  | none =>
    rw [Patch.applyTo, htarget] at happlied
    obtain ⟨rfl, rfl⟩ := Prod.mk.inj (Except.ok.inj happlied)
    have hkept : before.status = after.status := by
      rw [hwritten, Patch.label, Application.appendIfAny_eq]
      rfl
    refine ⟨[], _, .label id p actor (w'.fresh .entry) htarget, ?_⟩
    simp only [hkept, bne_self_eq_false, Bool.false_eq_true, if_false]
    rw [World.perform_log_bind]
    rfl
  | some target =>
    obtain ⟨hnone, -⟩ | ⟨target', -, submitted, hfinal, hpatched⟩ := Patch.applyTo_eq_ok happlied
    · rw [hnone] at htarget
      cases htarget
    have hmoved : (before.status != after.status) = true := by
      rw [hwritten, hpatched, submitted]
      simpa [Application.rewritten, Application.stamp] using Ne.symm hfinal
    obtain ⟨name, name', entry, hentered⟩ := perform_recordMove_log_bind (w := w')
      { before, after, outcome := move } actor.userId none p.notes
      (patchedEntry p { before, after, outcome := move } actor.userId) (pure after)
    simp only [hmoved, if_true]
    exact ⟨_, _, .patch id p actor target draft move name name' entry htarget happlied, hentered⟩

theorem ends_submit (s : Submission) :
  (Mutation.submit s actor).Ends policy w (fun stored => stored) (w.perform (submit policy s actor))
  := by
  rw [World.perform_submit]
  cases hdrafted : w.drafted policy s actor with
  | error e => exact .refused e
  | ok r =>
    simp only
    cases hinsert : w.records.insert r.1 with
    | error e => exact .refused _
    | ok later =>
      obtain ⟨-, -, rfl⟩ := Records.insert_eq_ok_iff.mp hinsert
      exact .filed s actor r.1 r.2 _ _ rfl hdrafted hinsert

end Service

/-- A mutation that runs alone is refused, or it files a record, or it amends one, and then it
has entered into the books what tells of that. -/
theorem Mutation.perform_ends (policy : Policy) (m : Mutation) (w : World) :
  m.Ends policy w (fun stored => m.reply stored) (w.perform (m.service policy))
  := by
  cases m with
  | submit s actor => exact Service.ends_submit s
  | edit id e actor => exact Service.ends_edit e
  | decide id d actor => exact Service.ends_decideStatus d
  | withdraw id d actor => exact Service.ends_withdraw d
  | check id u actor => exact Service.ends_checkReference u
  | attach id u actor => exact Service.ends_attach u
  | chooseStage id c actor => exact Service.ends_chooseStage c
  | delete id actor => exact Service.ends_delete
  | patch id p actor => exact Service.ends_patchOne p

end Rehoming
