import Rehoming.Proofs.Performing.Alike
import Rehoming.Proofs.Performing.Authority
/-!
# Blind mutations

A stranger to an application is neither its applicant nor administers it.  What a stranger
tries to change is blind for the application: every change begins with the look at who asks
for it, and a submission is not refused for an application of somebody else.
-/

namespace Rehoming

/-- Whether an actor is neither the applicant of an application nor administers it. -/
structure Actor.StrangerTo (actor : Actor) (a : Application) : Prop where
  notOwner : a.userId ≠ actor.userId
  notAdministrator : ¬actor.Administers a

/-- A stranger may do nothing with an application. -/
theorem Actor.StrangerTo.mayDo_eq_false {actor : Actor} {a : Application} (h : actor.StrangerTo a)
    (operation : Operation) :
  actor.mayDo operation a = false
  := by
  by_contra hmay
  rw [Bool.not_eq_false] at hmay
  cases operation with
  | updateContent | withdraw | addDocument | delete =>
    apply h.notOwner
    apply Actor.owns_of_mayDo hmay
    simp
  | changeStatus | changeStage | updateReference | bulkUpdate =>
    apply h.notAdministrator
    apply Actor.administers_of_mayDo hmay
    simp
  | view =>
    cases hrole : actor.role with
    | admin => exact h.notAdministrator (.inl hrole)
    | adopter =>
      apply h.notOwner
      simpa [mayDo, hrole, Application.isOwnedBy] using hmay
    | rescueStaff =>
      apply h.notAdministrator
      right
      use hrole
      simpa [mayDo, hrole, sharesRescue] using hmay
  | search | viewStatistics => cases hmay

/-- Whoever is a stranger as whom the directory knows the actor is one as well without it. -/
theorem Actor.StrangerTo.of_resolvedIn {actor : Actor} {a : Application} {d : Directory}
    (h : (actor.resolvedIn d).StrangerTo a) :
  actor.StrangerTo a
  := by
  constructor
  case notOwner => simpa using h.notOwner
  case notAdministrator =>
    rintro (hadmin | ⟨hstaff, hrescue⟩)
    · apply h.notAdministrator
      left
      simpa using hadmin
    · apply h.notAdministrator
      right
      have hknown : ¬(actor.role = .rescueStaff ∧ actor.rescueId = none) := by simp [hrescue]
      rw [resolvedIn, if_neg hknown]
      exact ⟨hstaff, hrescue⟩

variable {d : Directory} {r r' : Application} {policy : Policy} {actor : Actor}
  {id : ApplicationId}

namespace Service

/-! ### Changes -/

section Change

variable (a : Application) (now : Time.Instant)

theorem blind_editChange (e : Edit) :
  (editChange e actor a now).Blind d r r'
  := by
  apply Blind.bind blind_require
  rintro ⟨⟩
  apply Blind.bind blind_require
  rintro ⟨⟩
  cases e.answers with
  | none => exact blind_pure _
  | some answers => exact Blind.bind blind_requireAnswers fun _ => blind_pure _

theorem blind_decisionChange (c : Decision) :
  (decisionChange c actor a now).Blind d r r'
  := Blind.bind blind_require fun _ => blind_allowed

theorem blind_withdrawalChange (c : Withdrawal) :
  (withdrawalChange c actor a now).Blind d r r'
  := Blind.bind blind_require fun _ => blind_allowed

theorem blind_checkChange (u : ReferenceUpdate) (index : Nat) :
  (checkChange u index actor a now).Blind d r r'
  := Blind.bind blind_require fun _ => blind_pure _

theorem blind_uploadChange (u : Upload) :
  (uploadChange u actor a now).Blind d r r'
  := by
  apply Blind.bind blind_require
  rintro ⟨⟩
  apply blind_ask_bind
  · rintro w w' halike
    obtain ⟨timeline, audit, rfl⟩ := halike.differ
    rfl
  · exact fun _ => rfl
  · exact fun _ => blind_pure _

theorem blind_stageChange (c : StageChoice) :
  (stageChange c actor a now).Blind d r r'
  := Blind.bind blind_require fun _ => Blind.bind blind_require fun _ => blind_pure _

theorem blind_deletionChange :
  (deletionChange actor a now).Blind d r r'
  := Blind.bind blind_require fun _ => Blind.bind blind_require fun _ => blind_pure _

theorem blind_patchChange (p : Patch) :
  (patchChange p actor a now).Blind d r r'
  := Blind.bind blind_require fun _ => blind_allowed

end Change

/-! ### Mutations -/

section Mutation

variable (hout : r.Outlines r')

include hout

theorem drafted_of_alike {w w' : World} (halike : World.Alike d r r' w w')
    (hother : r.userId ≠ actor.userId) (s : Submission) :
  w'.drafted policy s actor = w.drafted policy s actor
  := by
  have hactive : ∀ pet, w'.records.findActive actor.userId pet = w.records.findActive actor.userId pet := by
    intro pet
    obtain ⟨timeline, audit, rfl⟩ := halike.differ
    apply Records.find?_eq_of_filter_eq
    apply halike.holds.filter_replace hout.applicationId
    · simp [hother]
    · simp [hout.userId, hother]
  obtain ⟨timeline, audit, rfl⟩ := halike.differ
  simp only [World.drafted, hactive]
  rfl

/-- Nobody's submission is refused for an application of somebody else. -/
theorem insert_of_alike {w w' : World} (halike : World.Alike d r r' w w') {a : Application}
    (hother : r.userId ≠ a.userId) :
  w'.records.insert a = (w.records.insert a).map fun _ => w'.records ++ [a]
  := by
  have hfind : (w'.records.find? a.applicationId).isSome = (w.records.find? a.applicationId).isSome := by
    by_cases hname : r.applicationId = a.applicationId
    · rw [← hname, halike.find?_self hout, halike.holds.stored]
      rfl
    · rw [halike.find?_eq hout hname]
  have hrivals : w'.records.any (fun b => b.isActive && Records.samePair b a)
      = w.records.any fun b => b.isActive && Records.samePair b a := by
    obtain ⟨timeline, audit, rfl⟩ := halike.differ
    apply Records.any_eq_of_filter_eq
    apply halike.holds.filter_replace hout.applicationId
    · simp [Records.samePair, hother]
    · simp [Records.samePair, hout.userId, hother]
  rw [Records.insert, Records.insert, hfind, hrivals]
  split
  case isTrue => rfl
  split
  case isTrue => rfl
  rfl

theorem blind_submit (s : Submission) (hother : r.userId ≠ actor.userId) :
  (submit policy s actor).Blind d r r'
  := by
  intro w w' halike
  change (w'.perform _).1 = (w.perform _).1 ∧ World.Alike d r r' (w.perform _).2 (w'.perform _).2
  rw [World.perform_submit, World.perform_submit, drafted_of_alike hout halike hother]
  cases hdrafted : w.drafted policy s actor with
  | error e => exact ⟨rfl, halike⟩
  | ok draft =>
    obtain ⟨pet, rescue, hmade⟩ := World.eq_of_drafted hdrafted
    have howner : r.userId ≠ draft.1.userId := by
      rw [hmade]
      exact hother
    simp only
    rw [insert_of_alike hout halike howner]
    cases hinsert : w.records.insert draft.1 with
    | error e => exact ⟨rfl, halike⟩
    | ok later =>
      obtain ⟨hfree, -, -⟩ := Records.insert_eq_ok_iff.mp hinsert
      exact ⟨rfl, (halike.file hout hfree).enter _ _ _ _⟩

variable (hdeleted : r.isDeleted = false)

include hdeleted

theorem blind_edit (e : Edit) (hstranger : actor.StrangerTo r) :
  (edit policy id e actor).Blind d r r'
  := by
  apply Blind.requireNone_bind
  intro hfaults
  apply Blind.commit_bind hout hdeleted (editChange_amends hfaults) (fun _ _ => ⟨_, rfl⟩)
    (hstranger.mayDo_eq_false .updateContent) (blind_editChange · · e)
  intro done
  split
  · exact blind_record_log
  · exact blind_pure _

theorem blind_decideStatus (c : Decision) (hstranger : (actor.resolvedIn d).StrangerTo r) :
  (decideStatus policy id c actor).Blind d r r'
  := by
  apply Blind.resolve_bind
  apply Blind.commit_bind hout hdeleted decisionChange_amends (fun _ _ => ⟨_, rfl⟩)
    (hstranger.mayDo_eq_false .changeStatus) (blind_decisionChange · · c)
  intro done
  exact blind_recordMove_log

theorem blind_withdraw (c : Withdrawal) (hstranger : actor.StrangerTo r) :
  (withdraw policy id c actor).Blind d r r'
  := by
  apply Blind.commit_bind hout hdeleted withdrawalChange_amends (fun _ _ => ⟨_, rfl⟩)
    (hstranger.mayDo_eq_false .withdraw) (blind_withdrawalChange · · c)
  intro done
  exact blind_recordMove_log

theorem blind_checkReference (u : ReferenceUpdate) (hstranger : (actor.resolvedIn d).StrangerTo r) :
  (checkReference policy id u actor).Blind d r r'
  := by
  rw [checkReference]
  cases hindex : u.resolve policy.maxReferenceSlots with
  | error e => exact blind_throw _
  | ok index =>
    change Service.Blind d r r' (resolve actor >>= _)
    apply Blind.resolve_bind
    apply Blind.commit_bind hout hdeleted (checkChange_amends hindex) (fun _ _ => ⟨_, rfl⟩)
      (hstranger.mayDo_eq_false .updateReference) (blind_checkChange · · u index)
    intro done
    split
    · exact blind_record_log
    · exact blind_pure _

theorem blind_attach (u : Upload) (hstranger : actor.StrangerTo r) :
  (attach policy id u actor).Blind d r r'
  := by
  apply Blind.requireNone_bind
  intro hfaults
  apply Blind.commit_bind hout hdeleted (uploadChange_amends hfaults) (fun _ _ => ⟨_, rfl⟩)
    (hstranger.mayDo_eq_false .addDocument) (blind_uploadChange · · u)
  intro done
  exact blind_record_log

theorem blind_chooseStage (c : StageChoice) (hstranger : (actor.resolvedIn d).StrangerTo r) :
  (chooseStage policy id c actor).Blind d r r'
  := by
  apply Blind.requireNone_bind
  intro hfaults
  apply Blind.resolve_bind
  apply Blind.commit_bind hout hdeleted (stageChange_amends hfaults) (fun _ _ => ⟨_, rfl⟩)
    (hstranger.mayDo_eq_false .changeStage) (blind_stageChange · · c)
  intro done
  split
  · exact blind_record_log
  · exact blind_pure _

theorem blind_delete (hstranger : actor.StrangerTo r) :
  (delete policy id actor).Blind d r r'
  := by
  apply Blind.commit_bind hout hdeleted deletionChange_amends (fun _ _ => ⟨_, rfl⟩)
    (hstranger.mayDo_eq_false .delete) blind_deletionChange
  exact fun done => blind_log

theorem blind_patchOne (p : Patch) (hstranger : actor.StrangerTo r) :
  (patchOne policy id p actor).Blind d r r'
  := by
  apply Blind.commit_bind hout hdeleted patchChange_amends (fun _ _ => ⟨_, rfl⟩)
    (hstranger.mayDo_eq_false .bulkUpdate) (blind_patchChange · · p)
  intro done
  split
  · exact blind_recordMove_log
  · exact Blind.bind blind_log fun _ => blind_pure _

theorem blind_patchEach (p : Patch) (hstranger : actor.StrangerTo r) (ids : List ApplicationId) :
  (patchEach policy p actor ids).Blind d r r'
  := by
  induction ids with
  | nil => exact Program.blind_done _
  | cons id rest ih =>
    apply Program.Blind.bind (blind_patchOne hout hdeleted p hstranger)
    intro outcome
    apply Program.Blind.bind ih
    intro result
    cases outcome with
    | ok a => exact Program.blind_done _
    | error refusal => exact Program.blind_done _

theorem blind_applyBatch (b : Batch) (hstranger : (actor.resolvedIn d).StrangerTo r) :
  (applyBatch policy b actor).Blind d r r'
  := by
  apply Blind.requireNone_bind
  intro _
  apply Blind.resolve_bind
  apply Blind.bind blind_require
  rintro ⟨⟩
  exact blind_lift (blind_patchEach hout hdeleted b.updates hstranger b.applicationIds)

end Mutation

end Service

/-- No mutation of a stranger tells worlds apart. -/
theorem Mutation.blind (hout : r.Outlines r') (hdeleted : r.isDeleted = false) (m : Mutation)
    (hstranger : (m.actor.resolvedIn d).StrangerTo r) :
  (m.service policy).Blind d r r'
  := by
  cases m with
  | submit s actor => exact Service.blind_submit hout s hstranger.of_resolvedIn.notOwner
  | edit id e actor => exact Service.blind_edit hout hdeleted e hstranger.of_resolvedIn
  | decide id c actor => exact Service.blind_decideStatus hout hdeleted c hstranger
  | withdraw id c actor => exact Service.blind_withdraw hout hdeleted c hstranger.of_resolvedIn
  | check id u actor => exact Service.blind_checkReference hout hdeleted u hstranger
  | attach id u actor => exact Service.blind_attach hout hdeleted u hstranger.of_resolvedIn
  | chooseStage id c actor => exact Service.blind_chooseStage hout hdeleted c hstranger
  | delete id actor => exact Service.blind_delete hout hdeleted hstranger.of_resolvedIn
  | patch id p actor => exact Service.blind_patchOne hout hdeleted p hstranger.of_resolvedIn

end Rehoming
