import Rehoming.Proofs.Performing.Mutation
/-!
# What a commit does alone

A commit that nobody disturbs looks up the record, makes its change and writes the result back
at once; what comes after it only enters events and entries into the books.  So is a
submission, which writes a new record instead.
-/

namespace Rehoming

open Service

/-- The record that a write makes of a draft: with the times of the write, and the version
after that of the record before. -/
def Application.rewritten (draft before : Application) (ttlDays : Nat) (now : Time.Instant) :
    Application :=
  { draft.stamp now ttlDays with version := before.version + 1 }

namespace World

variable {α β : Type} {w : World}

/-- The world with more events and entries in its books. -/
def enter (w : World) (events : List TimelineEvent) (entries : List AuditEntry) : World :=
  { w with timeline := w.timeline ++ events, audit := w.audit ++ entries }

/-- The world with a record in the place of the one of its name. -/
def write (w : World) (a : Application) : World :=
  { w with records := w.records.replace a, attached := w.attached + w.newDocuments a }

/-- The world with one record more. -/
def file (w : World) (a : Application) : World :=
  { w with records := w.records ++ [a], inserted := w.inserted + 1 }

@[simp]
theorem enter_nil :
  w.enter [] [] = w
  := by
  simp [enter]

@[simp]
theorem enter_enter (events more : List TimelineEvent) (entries more' : List AuditEntry) :
  (w.enter events entries).enter more more' = w.enter (events ++ more) (entries ++ more')
  := by
  simp [enter]

@[simp]
theorem enter_records (events : List TimelineEvent) (entries : List AuditEntry) :
  (w.enter events entries).records = w.records
  := rfl

@[simp]
theorem write_records (a : Application) :
  (w.write a).records = w.records.replace a
  := rfl

/-! ### Steps that change the world -/

/-- What an operation does after another one. -/
theorem perform_bind (x : Service α) (f : α → Service β) :
  w.perform (x >>= f)
    = match w.perform x with
      | (.error e, w') => (.error e, w')
      | (.ok a, w') => w'.perform (f a)
  := by
  rw [perform, Service.run_bind, Program.run_bind]
  change (onward f (w.perform x).1).run answer (w.perform x).2 = _
  cases w.perform x with
  | mk result w' =>
    cases result with
    | error e => rfl
    | ok a => rfl

theorem perform_record_bind (event : String → TimelineEvent) (x : Service β) :
  w.perform (record event >>= fun _ => x) = (w.enter [event (w.fresh .event)] []).perform x
  := by
  simp [record, answer, enter]

theorem perform_log_bind (entry : String → AuditEntry) (x : Service β) :
  w.perform (log entry >>= fun _ => x) = (w.enter [] [entry (w.fresh .entry)]).perform x
  := by
  simp [log, answer, enter]

/-- An event and an entry are named after what is in the books before them. -/
theorem perform_record_log_bind (event : String → TimelineEvent) (entry : String → AuditEntry)
    (x : Service β) :
  w.perform (record event >>= fun _ => log entry >>= fun _ => x)
    = (w.enter [event (w.fresh .event)] [entry (w.fresh .entry)]).perform x
  := by
  rw [perform_record_bind, perform_log_bind]
  simp [enter, fresh]

/-! ### Steps of changes -/

@[simp]
theorem perform_requireSubmitted_bind (a : Application) (x : Service β) :
  w.perform (requireSubmitted a >>= fun _ => x)
    = if a.status == .submitted then w.perform x else (.error (.alreadyProcessed a.status), w)
  := perform_require_bind ..

@[simp]
theorem perform_requireAnswers_bind (rescue : RescueId) (answers : Answers) (x : Service β) :
  w.perform (requireAnswers rescue answers >>= fun _ => x)
    = (let errors := (AnswerReport.of (w.questions.formOf rescue) answers).errors
      if errors.isEmpty then w.perform x else (.error (.answersRefused errors), w))
  := by
  simp only [requireAnswers, reportOn, bind_assoc, perform_ask_bind, answer, stored_ok, pure_bind,
    perform_requireNone_bind]

@[simp]
theorem perform_allowed (r : Except TransitionRefused α) :
  w.perform (allowed r) = (r.mapError .invalidTransition, w)
  := by
  cases r with
  | ok a => rfl
  | error refused => rfl

/-! ### Commits -/

section Commit

variable {policy : Policy} {actor : Actor} {id : ApplicationId} {change : Change α}

/-- A commit is refused, and has changed nothing, if there is nothing to change or if the
change is refused; else what comes after it goes on in the world with the record written. -/
theorem perform_commit_bind (hchange : ChangeAmends (fun _ => True) policy actor change)
    (retries : Nat) (tail : Committed α → Service β) :
  w.perform (commit policy id change retries >>= tail)
    = match w.records.fetch id false with
      | none => (.error (.applicationNotFound id), w)
      | some before =>
        match (w.perform (change before w.clock)).1 with
        | .error e => (.error e, w)
        | .ok (draft, outcome) =>
          let after := draft.rewritten before policy.ttlDays w.clock
          (w.write after).perform (tail { before, after, outcome })
  := by
  have hcommit : w.perform (commit policy id change retries) = _ :=
    (run_commit hchange trivial (fun _ _ => throw (.applicationNotFound id)) retries).trans
      (run_attempt hchange _ trivial)
  rw [perform_bind, hcommit]
  cases w.records.fetch id false with
  | none => rfl
  | some before =>
    simp only [perform]
    cases ((change before w.clock).run.run answer w).1 with
    | error e => rfl
    | ok r => rfl

/-- A commit is refused and has changed nothing, or its change has gone through and what comes
after it goes on in the world with the record written. -/
theorem perform_commit_cases (hchange : ChangeAmends (fun _ => True) policy actor change)
    (retries : Nat) (tail : Committed α → Service β) :
  (∃ e, w.perform (commit policy id change retries >>= tail) = (.error e, w))
  ∨ ∃ before draft outcome, w.records.fetch id false = some before
      ∧ (w.perform (change before w.clock)).1 = .ok (draft, outcome)
      ∧ w.perform (commit policy id change retries >>= tail)
        = (w.write (draft.rewritten before policy.ttlDays w.clock)).perform
            (tail { before, after := draft.rewritten before policy.ttlDays w.clock, outcome })
  := by
  rw [perform_commit_bind hchange]
  cases w.records.fetch id false with
  | none => exact .inl ⟨_, rfl⟩
  | some before =>
    simp only
    cases hr : (w.perform (change before w.clock)).1 with
    | error e => exact .inl ⟨e, rfl⟩
    | ok r => exact .inr ⟨before, r.1, r.2, rfl, hr, rfl⟩

end Commit

/-! ### Submissions -/

/-- The record that a submission makes in a world, with the name of the pet, or why it makes
none. -/
def drafted (w : World) (policy : Policy) (s : Submission) (actor : Actor) :
    Except Refusal (Application × String) :=
  let faults := s.faults policy.maxReferences
  if faults.isEmpty then
    match w.directory.findUser actor.userId with
    | none => .error (.userNotFound actor.userId)
    | some _ =>
      match w.directory.findPet s.petId with
      | none => .error (.petNotFound s.petId)
      | some pet =>
        if pet.status == .available then
          if (w.records.findActive actor.userId pet.petId).isNone then
            let errors := (AnswerReport.of (w.questions.formOf pet.rescueId) s.answers).errors
            if errors.isEmpty then
              .ok (s.application ⟨w.fresh .application⟩ actor.userId pet.petId pet.rescueId w.clock
                policy.ttlDays, pet.name)
            else .error (.answersRefused errors)
          else .error (.duplicateActiveApplication actor.userId pet.petId)
        else .error (.petUnavailable pet.petId pet.status)
  else .error (.invalidInput faults)

/-- What a submission makes is new, has the next name, and is the actor's own. -/
theorem eq_of_drafted {policy : Policy} {s : Submission} {actor : Actor} {a : Application}
    {petName : String} (h : w.drafted policy s actor = .ok (a, petName)) :
  ∃ pet rescue, a = s.application ⟨w.fresh .application⟩ actor.userId pet rescue w.clock policy.ttlDays
  := by
  simp only [drafted] at h
  split at h
  case isFalse => cases h
  split at h
  case h_1 => cases h
  split at h
  case h_1 => cases h
  next pet _ =>
    split at h
    case isFalse => cases h
    split at h
    case isFalse => cases h
    split at h
    case isFalse => cases h
    use pet.petId, pet.rescueId
    exact (congrArg Prod.fst (Except.ok.inj h)).symm

theorem perform_insertNew_bind (a : Application) (f : Application → Service β) :
  w.perform (insertNew a >>= f)
    = match w.records.insert a with
      | .error e => (.error (insertRefusal a e), w)
      | .ok _ => (w.file a).perform (f a)
  := by
  rw [insertNew, bind_assoc, perform_ask_bind]
  cases hinsert : w.records.insert a with
  | error e =>
    rw [answer_insert_error hinsert]
    cases e with
    | _ => rfl
  | ok later =>
    obtain ⟨-, -, rfl⟩ := Records.insert_eq_ok_iff.mp hinsert
    rw [answer_insert_ok hinsert]
    rfl

/-- A submission that runs alone files the record it makes, if it makes one and the store takes
it, and enters it into the books. -/
theorem perform_submit (policy : Policy) (s : Submission) (actor : Actor) :
  w.perform (submit policy s actor)
    = match w.drafted policy s actor with
      | .error e => (.error e, w)
      | .ok (a, petName) =>
        match w.records.insert a with
        | .error e => (.error (insertRefusal a e), w)
        | .ok _ =>
          (.ok a, (w.file a).enter [submittedEvent a petName w.clock (w.fresh .event)]
            [submittedEntry a w.clock (w.fresh .entry)])
  := by
  rw [submit, drafted, perform_requireNone_bind]
  split
  case isFalse => rfl
  simp only [perform_ask_bind, answer, stored_ok, pure_bind]
  cases w.directory.findUser actor.userId with
  | none => rfl
  | some user =>
    simp only [present_some, pure_bind, perform_ask_bind, answer, stored_ok]
    cases w.directory.findPet s.petId with
    | none => rfl
    | some pet =>
      simp only [present_some, pure_bind, perform_require_bind, perform_ask_bind, answer, stored_ok,
        perform_requireAnswers_bind]
      by_cases available : pet.status == .available
      · by_cases alone : (w.records.findActive actor.userId pet.petId).isNone
        · by_cases fits : (AnswerReport.of (w.questions.formOf pet.rescueId) s.answers).errors.isEmpty
          · rw [if_pos available, if_pos alone, if_pos fits, if_pos available, if_pos alone, if_pos fits,
              perform_insertNew_bind]
            simp only [perform_record_log_bind, perform_pure]
            rfl
          · simp only [if_pos available, if_pos alone, if_neg fits]
        · simp only [if_pos available, if_neg alone]
      · simp only [if_neg available]

end World

end Rehoming
