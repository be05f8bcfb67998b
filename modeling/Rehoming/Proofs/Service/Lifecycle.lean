import Rehoming.Proofs.Service.Course
import Rehoming.Proofs.Time.Instant
/-!
# The life cycle of an application

How the fields that the life cycle writes hang together.  The status says which stages are
possible and which of the times are known; the times of the decision, the action and the last
write come in their order.  A submission sets the fields up so, and every amendment leaves
them so, although each of them writes other ones.
-/

namespace Rehoming

/-- How the fields of a stored application hang together under a policy. -/
structure Lifecycle (policy : Policy) (a : Application) : Prop where
  submitted : a.submittedAt = some a.createdAt
  expires : a.expiresAt = a.createdAt.addDays? policy.ttlDays
  older : a.createdAt ≤ a.updatedAt
  waiting : a.status = .submitted →
    a.stage ∈ [Stage.pending, .reviewing, .visiting, .deciding] ∧ a.decisionAt = none
    ∧ a.actionedBy = none ∧ a.actionedAt = none ∧ a.rejectionReason = none
    ∧ a.followUpDate = none
  resolved : a.status = .approved ∨ a.status = .rejected → a.stage = .resolved
  withdrawn : a.status = .withdrawn → a.stage = .withdrawn
  settled : a.status ≠ .submitted → a.actionedBy.isSome = true
    ∧ ∃ t, a.decisionAt = some t ∧ a.actionedAt = some t ∧ a.createdAt ≤ t ∧ t ≤ a.updatedAt
  reason : ∀ r, a.rejectionReason = some r →
    a.status = .rejected ∧ Text.isBlank r = false ∧ Text.trim r = r
  deleted : ∀ t, a.deletedAt = some t → a.status = .submitted ∧ t = a.updatedAt
  score : ∀ n, a.score = some n → n ≤ 100

theorem Stage.mem_of_not_isSettled {stage : Stage} (h : stage.isSettled = false) :
  stage ∈ [Stage.pending, .reviewing, .visiting, .deciding]
  := by
  cases stage with
  | pending | reviewing | visiting | deciding => decide
  | resolved | withdrawn => cases h

namespace Lifecycle

variable {policy : Policy} {before draft : Application} {user : UserId} {now : Time.Instant}

/-- A submission sets up the life cycle. -/
theorem application (s : Submission) (id : ApplicationId) (user : UserId) (pet : PetId)
    (rescue : RescueId) (now : Time.Instant) :
  Lifecycle policy (s.application id user pet rescue now policy.ttlDays)
  := by
  constructor
  case submitted => rfl
  case expires => rfl
  case older => apply Time.Instant.le_refl
  case waiting =>
    intro _
    exact ⟨List.mem_cons_self, rfl, rfl, rfl, rfl, rfl⟩
  case resolved => rintro (h | h) <;> cases h
  case withdrawn => intro h; cases h
  case settled => intro h; cases h rfl
  case reason => intro r h; cases h
  case deleted => intro t h; cases h
  case score => intro n h; cases h

/-- The time of expiry stays as it was set, or unknown. -/
theorem expires_or (h : Lifecycle policy before) (hle : before.updatedAt ≤ now) :
  before.expiresAt.or (now.addDays? policy.ttlDays) = before.createdAt.addDays? policy.ttlDays
  := by
  rw [h.expires]
  cases hexpires : before.createdAt.addDays? policy.ttlDays with
  | some t => rfl
  | none =>
    apply Time.Instant.addDays?_eq_none_of_le _ hexpires
    apply Time.Instant.le_trans h.older hle

/-- Changes of the contents, and of the stage to one that may be chosen, leave the life cycle. -/
theorem revise (h : Lifecycle policy before) (hdeleted : before.deletedAt = none)
    (hle : before.updatedAt ≤ now) (answers : Answers)
    (references : List Reference) (documents : List Document) (priority : Priority)
    (notes interviewNotes homeVisitNotes : Option String) (tags : TextSet) {stage : Stage}
    {score : Option Nat}
    (hstage : stage = before.stage ∨ before.status = .submitted ∧ stage.isSettled = false)
    (hscore : ∀ n, score = some n → before.score = some n ∨ n ≤ 100) :
  Lifecycle policy
    (Application.stamp
      { before with
        answers, references, documents, priority, notes, interviewNotes, homeVisitNotes, tags,
        stage, score } now policy.ttlDays)
  := by
  constructor
  case submitted => exact Application.stamp_submittedAt_of_some h.submitted
  case expires => exact Application.stamp_expiresAt_eq h.expires (h.expires_or hle)
  case older => exact Time.Instant.le_trans h.older hle
  case waiting =>
    intro hstatus
    obtain ⟨hwaiting, hdecision, hrest⟩ := h.waiting hstatus
    refine ⟨?_, Application.stamp_decisionAt_of_submitted hstatus hdecision, hrest⟩
    obtain rfl | ⟨-, hchosen⟩ := hstage
    · exact hwaiting
    · exact Stage.mem_of_not_isSettled hchosen
  case resolved =>
    intro hstatus
    obtain rfl | ⟨hwaiting, -⟩ := hstage
    · exact h.resolved hstatus
    · obtain happroved | hrejected := hstatus
      · cases hwaiting.symm.trans happroved
      · cases hwaiting.symm.trans hrejected
  case withdrawn =>
    intro hstatus
    obtain rfl | ⟨hwaiting, -⟩ := hstage
    · exact h.withdrawn hstatus
    · cases hwaiting.symm.trans hstatus
  case settled =>
    intro hstatus
    obtain ⟨hby, t, hdecision, haction, hfrom, hto⟩ := h.settled hstatus
    refine ⟨hby, t, Application.stamp_decisionAt_of_some hdecision, haction, hfrom, ?_⟩
    exact Time.Instant.le_trans hto hle
  case reason => exact h.reason
  case deleted =>
    intro t ht
    cases hdeleted.symm.trans ht
  case score =>
    intro n hn
    obtain hkept | hle := hscore n hn
    · exact h.score n hkept
    · exact hle

/-- A final status settles the stage, and the times of the decision and of the action are those
of the write. -/
theorem settle (h : Lifecycle policy before) (hdeleted : before.deletedAt = none)
    (hle : before.updatedAt ≤ now) (user : UserId) {status : Status}
    (priority : Priority) (notes : Option String) {rejectionReason : Option String}
    (tags : TextSet) (followUpDate : Option Time.Instant) (hwaiting : before.status = .submitted)
    (hstatus : status ≠ .submitted)
    (hreason : ∀ r, rejectionReason = some r → before.rejectionReason = some r
      ∨ status = .rejected ∧ Text.isBlank r = false ∧ Text.trim r = r) :
  Lifecycle policy
    (Application.stamp
      { before with
        status, priority, notes, rejectionReason, tags, followUpDate
        stage := (Stage.settledBy status).getD before.stage
        actionedBy := some user
        actionedAt := some now
        decisionAt := if status = .approved ∨ status = .rejected then some now
          else before.decisionAt } now policy.ttlDays)
  := by
  obtain ⟨-, hdecision, -, -, hnone, -⟩ := h.waiting hwaiting
  constructor
  case submitted => exact Application.stamp_submittedAt_of_some h.submitted
  case expires => exact Application.stamp_expiresAt_eq h.expires (h.expires_or hle)
  case older => exact Time.Instant.le_trans h.older hle
  case waiting =>
    intro hsubmitted
    cases hstatus hsubmitted
  case resolved =>
    intro (hresolved : status = .approved ∨ status = .rejected)
    obtain rfl | rfl := hresolved
    · rfl
    · rfl
  case withdrawn =>
    intro (hwithdrawn : status = .withdrawn)
    subst hwithdrawn
    rfl
  case settled =>
    intro _
    refine ⟨rfl, now, ?_, rfl, Time.Instant.le_trans h.older hle, Time.Instant.le_refl now⟩
    by_cases hdecided : status = .approved ∨ status = .rejected
    · apply Application.stamp_decisionAt_of_some
      rw [if_pos hdecided]
    · apply Application.stamp_decisionAt_of_none hstatus
      rw [if_neg hdecided, hdecision]
  case reason =>
    intro r hr
    obtain hkept | hgiven := hreason r hr
    · cases hnone.symm.trans hkept
    · exact hgiven
  case deleted =>
    intro t ht
    cases hdeleted.symm.trans ht
  case score => exact h.score

/-- A deletion takes place at the time of its write. -/
theorem delete (h : Lifecycle policy before) (hle : before.updatedAt ≤ now)
    (hwaiting : before.status = .submitted) :
  Lifecycle policy ((before.delete now).stamp now policy.ttlDays)
  := by
  constructor
  case submitted => exact Application.stamp_submittedAt_of_some h.submitted
  case expires => exact Application.stamp_expiresAt_eq h.expires (h.expires_or hle)
  case older => exact Time.Instant.le_trans h.older hle
  case waiting =>
    intro _
    obtain ⟨hstage, hdecision, hrest⟩ := h.waiting hwaiting
    exact ⟨hstage, Application.stamp_decisionAt_of_submitted hwaiting hdecision, hrest⟩
  case resolved => exact h.resolved
  case withdrawn => exact h.withdrawn
  case settled =>
    intro hsettled
    cases hsettled hwaiting
  case reason => exact h.reason
  case deleted =>
    intro t ht
    exact ⟨hwaiting, (Option.some.inj ht).symm⟩
  case score => exact h.score

/-- The version has nothing to do with the life cycle. -/
theorem with_version {a : Application} (h : Lifecycle policy a) (version : Nat) :
  Lifecycle policy { a with version }
  := ⟨h.submitted, h.expires, h.older, h.waiting, h.resolved, h.withdrawn, h.settled, h.reason,
    h.deleted, h.score⟩

/-- Every amendment leaves the life cycle, if it is not made before the last write. -/
theorem amend (h : Lifecycle policy before) (hdeleted : before.isDeleted = false)
    (hle : before.updatedAt ≤ now) (hcourse : Course user now before draft) :
  Lifecycle policy (draft.stamp now policy.ttlDays)
  := by
  have hnone : before.deletedAt = none := by simpa [Application.isDeleted] using hdeleted
  cases hcourse with
  | edit answers references priority notes interviewNotes homeVisitNotes score tags hwaiting hscore =>
    exact h.revise hnone hle answers references before.documents priority notes interviewNotes
      homeVisitNotes tags (.inl rfl) hscore
  | follow references documents priority notes tags hdocuments hnotes =>
    exact h.revise hnone hle before.answers references documents priority notes
      before.interviewNotes before.homeVisitNotes tags (.inl rfl) fun _ => .inl
  | stage stage notes hwaiting hsettled =>
    exact h.revise hnone hle before.answers before.references before.documents
      before.priority notes before.interviewNotes before.homeVisitNotes before.tags
      (.inr ⟨hwaiting, hsettled⟩) fun _ => .inl
  | settle status priority notes rejectionReason tags followUpDate hwaiting hstatus hreason =>
    exact h.settle hnone hle user priority notes tags followUpDate hwaiting hstatus hreason
  | delete hwaiting => exact h.delete hle hwaiting

end Lifecycle

end Rehoming
