import Rehoming.Proofs.Performing.Commit
/-!
# Worlds that look alike

Two worlds are alike but for one record if they differ in what is behind the name, the
applicant, the rescue and the deletion of that record, and in their books.  A blind operation
cannot tell such worlds apart: it returns the same value in both and leaves them alike.  What
blind operations are composed of is blind.
-/

namespace Rehoming

/-- Whether two records are of the same name, applicant and rescue, and deleted at the same
time or not at all. -/
structure Application.Outlines (a b : Application) : Prop where
  applicationId : b.applicationId = a.applicationId
  userId : b.userId = a.userId
  rescueId : b.rescueId = a.rescueId
  deletedAt : b.deletedAt = a.deletedAt

section Outlines

variable {a b : Application}

theorem Application.Outlines.isDeleted_eq (h : a.Outlines b) :
  b.isDeleted = a.isDeleted
  := by
  rw [isDeleted, isDeleted, h.deletedAt]

/-- Who may do something with a record shows in its outlines. -/
theorem Application.Outlines.mayDo_eq (h : a.Outlines b) (actor : Actor) (operation : Operation) :
  actor.mayDo operation b = actor.mayDo operation a
  := by
  simp only [Actor.mayDo, isOwnedBy, Actor.sharesRescue, h.userId, h.rescueId]

end Outlines

/-- That two worlds with a directory differ in one record only, which is `r` in the one and `r'`
in the other, and in their books. -/
structure World.Alike (d : Directory) (r r' : Application) (w w' : World) : Prop where
  directory : w.directory = d
  holds : w.records.Holds r
  differ : ∃ timeline audit,
    w' = { w with records := w.records.replace r', timeline := timeline, audit := audit }

/-- That a program cannot tell worlds apart that are alike. -/
def Program.Blind {α : Type} (d : Directory) (r r' : Application) (p : Program α) : Prop :=
  ∀ w w', World.Alike d r r' w w' →
    (p.run World.answer w').1 = (p.run World.answer w).1
    ∧ World.Alike d r r' (p.run World.answer w).2 (p.run World.answer w').2

/-- That an operation cannot tell worlds apart that are alike. -/
def Service.Blind {α : Type} (d : Directory) (r r' : Application) (x : Service α) : Prop :=
  x.run.Blind d r r'

variable {d : Directory} {r r' : Application} {w w' : Rehoming.World} {α β : Type}

namespace World.Alike

variable {a : Application} {id : ApplicationId}

theorem directory' (h : Alike d r r' w w') :
  w'.directory = w.directory
  := by
  obtain ⟨timeline, audit, rfl⟩ := h.differ
  rfl

theorem clock (h : Alike d r r' w w') :
  w'.clock = w.clock
  := by
  obtain ⟨timeline, audit, rfl⟩ := h.differ
  rfl

theorem enter (h : Alike d r r' w w') (events events' : List TimelineEvent)
    (entries entries' : List AuditEntry) :
  Alike d r r' (w.enter events entries) (w'.enter events' entries')
  := by
  obtain ⟨timeline, audit, rfl⟩ := h.differ
  exact ⟨h.directory, h.holds, timeline ++ events', audit ++ entries', rfl⟩

/-- Other records are the same in both worlds. -/
theorem find?_eq (h : Alike d r r' w w') (hout : r.Outlines r') (hother : r.applicationId ≠ id) :
  w'.records.find? id = w.records.find? id
  := by
  obtain ⟨timeline, audit, rfl⟩ := h.differ
  have hother' : ¬r'.applicationId = id := by rwa [hout.applicationId]
  change (w.records.replace r').find? id = _
  rw [Records.find?_replace, if_neg hother']

theorem find?_self (h : Alike d r r' w w') (hout : r.Outlines r') :
  w'.records.find? r.applicationId = some r'
  := by
  obtain ⟨timeline, audit, rfl⟩ := h.differ
  change (w.records.replace r').find? r.applicationId = _
  rw [Records.find?_replace, if_pos hout.applicationId, h.holds.stored, Option.map_some]

/-- Looking up a name finds the one record that differs, or the same in both worlds. -/
theorem fetch_cases (h : Alike d r r' w w') (hout : r.Outlines r') (hdeleted : r.isDeleted = false)
    (id : ApplicationId) :
  (id = r.applicationId ∧ w.records.fetch id false = some r ∧ w'.records.fetch id false = some r')
  ∨ id ≠ r.applicationId ∧ w'.records.fetch id false = w.records.fetch id false
  := by
  by_cases hid : r.applicationId = id
  · left
    subst hid
    refine ⟨rfl, Records.fetch_eq_some_iff.mpr ⟨h.holds.stored, .inr hdeleted⟩, ?_⟩
    refine Records.fetch_eq_some_iff.mpr ⟨h.find?_self hout, .inr ?_⟩
    rwa [hout.isDeleted_eq]
  · right
    use fun hname => hid hname.symm
    rw [Records.fetch, Records.fetch, h.find?_eq hout hid]

/-- Writing over another record leaves worlds alike. -/
theorem write (h : Alike d r r' w w') (hout : r.Outlines r')
    (hother : a.applicationId ≠ r.applicationId) :
  Alike d r r' (w.write a) (w'.write a)
  := by
  have hdocuments : w'.newDocuments a = w.newDocuments a := by
    rw [newDocuments, newDocuments, h.find?_eq hout hother.symm]
  obtain ⟨timeline, audit, rfl⟩ := h.differ
  refine ⟨h.directory, h.holds.replace hother, timeline, audit, ?_⟩
  have hcomm : (w.records.replace r').replace a = (w.records.replace a).replace r' := by
    apply Records.replace_comm
    rw [hout.applicationId]
    exact hother.symm
  simp only [World.write, hcomm, hdocuments]

/-- Filing another record leaves worlds alike. -/
theorem file (h : Alike d r r' w w') (hout : r.Outlines r')
    (hfree : w.records.find? a.applicationId = none) :
  Alike d r r' (w.file a) (w'.file a)
  := by
  have hother : a.applicationId ≠ r.applicationId := by
    intro hname
    rw [hname, h.holds.stored] at hfree
    cases hfree
  obtain ⟨timeline, audit, rfl⟩ := h.differ
  refine ⟨h.directory, h.holds.append hfree, timeline, audit, ?_⟩
  simp [World.file, Records.replace, hout.applicationId, hother]

end World.Alike

/-! ### What blind operations are composed of -/

theorem Program.Blind.bind {p : Program α} {f : α → Program β} (h : p.Blind d r r')
    (hf : ∀ a, (f a).Blind d r r') :
  (p.bind f).Blind d r r'
  := by
  intro w w' halike
  obtain ⟨hsame, halike'⟩ := h w w' halike
  rw [Program.run_bind, Program.run_bind, hsame]
  exact hf _ _ _ halike'

theorem Program.blind_done (a : α) :
  (Program.done a).Blind d r r'
  := fun _ _ halike => ⟨rfl, halike⟩

namespace Service

theorem blind_pure (a : α) :
  (pure a : Service α).Blind d r r'
  := Program.blind_done (Except.ok a)

theorem blind_throw (e : Refusal) :
  (throw e : Service α).Blind d r r'
  := Program.blind_done (Except.error e)

theorem Blind.bind {x : Service α} {f : α → Service β} (h : x.Blind d r r')
    (hf : ∀ a, (f a).Blind d r r') :
  (x >>= f).Blind d r r'
  := by
  rw [Blind, run_bind]
  apply Program.Blind.bind h
  rintro (e | a)
  · apply Program.blind_done
  · apply hf

theorem blind_lift {p : Program α} (h : p.Blind d r r') :
  (ExceptT.lift p : Service α).Blind d r r'
  := Program.Blind.bind h fun a => Program.blind_done (Except.ok a)

theorem blind_require {condition : Bool} {e : Refusal} :
  (require condition e).Blind d r r'
  := by
  cases condition with
  | true => exact blind_pure ()
  | false => exact blind_throw e

theorem Blind.requireNone_bind {fields : List FieldError} {refusal : List FieldError → Refusal}
    {x : Service β} (h : fields = [] → x.Blind d r r') :
  (requireNone fields refusal >>= fun _ => x).Blind d r r'
  := by
  cases fields with
  | nil => exact h rfl
  | cons field rest => exact blind_throw _

theorem blind_allowed {result : Except TransitionRefused α} :
  (allowed result).Blind d r r'
  := by
  cases result with
  | ok a => exact blind_pure a
  | error refused => exact blind_throw _

/-- An answer that is the same in alike worlds, and leaves them as they are, tells nothing. -/
theorem blind_ask_bind {call : Call} {f : call.Answer → Service β}
    (hsame : ∀ w w', World.Alike d r r' w w' →
      (World.answer call w').1 = (World.answer call w).1)
    (hstay : ∀ w, (World.answer call w).2 = w) (hf : ∀ answer, (f answer).Blind d r r') :
  (ask call >>= f).Blind d r r'
  := by
  intro w w' halike
  rw [run_ask_bind, Program.run_ask, Program.run_ask, hsame w w' halike, hstay, hstay]
  exact hf _ _ _ halike

theorem Blind.perform {x : Service α} (h : x.Blind d r r') (halike : World.Alike d r r' w w') :
  (w'.perform x).1 = (w.perform x).1 ∧ World.Alike d r r' (w.perform x).2 (w'.perform x).2
  := h w w' halike

/-- What is entered into the books may have another name in the other world. -/
theorem blind_record {event : String → TimelineEvent} :
  (record event).Blind d r r'
  := by
  intro w w' halike
  obtain ⟨timeline, audit, rfl⟩ := halike.differ
  exact ⟨rfl, halike.directory, halike.holds, _, audit, rfl⟩

theorem blind_log {entry : String → AuditEntry} :
  (log entry).Blind d r r'
  := by
  intro w w' halike
  obtain ⟨timeline, audit, rfl⟩ := halike.differ
  exact ⟨rfl, halike.directory, halike.holds, timeline, _, rfl⟩

theorem blind_recordMove {done : Moved} {user : UserId} {reason notes : Option String} :
  (recordMove done user reason notes).Blind d r r'
  := by
  apply Blind.bind blind_record
  rintro ⟨⟩
  cases done.outcome with
  | none => exact blind_pure ()
  | some move => exact blind_record

/-- Telling what has been done and answering it is blind. -/
theorem blind_record_log {event : String → TimelineEvent} {entry : String → AuditEntry} {a : α} :
  (record event >>= fun _ => log entry >>= fun _ => pure a).Blind d r r'
  := by
  apply Blind.bind blind_record
  rintro ⟨⟩
  apply Blind.bind blind_log
  rintro ⟨⟩
  exact blind_pure a

theorem blind_recordMove_log {done : Moved} {user : UserId} {reason notes : Option String}
    {entry : String → AuditEntry} {a : α} :
  (recordMove done user reason notes >>= fun _ => log entry >>= fun _ => pure a).Blind d r r'
  := by
  apply Blind.bind blind_recordMove
  rintro ⟨⟩
  apply Blind.bind blind_log
  rintro ⟨⟩
  exact blind_pure a

theorem blind_reportOn {rescue : RescueId} {answers : Answers} :
  (reportOn rescue answers).Blind d r r'
  := by
  intro w w' halike
  obtain ⟨timeline, audit, rfl⟩ := halike.differ
  exact ⟨rfl, halike⟩

theorem blind_requireAnswers {rescue : RescueId} {answers : Answers} :
  (requireAnswers rescue answers).Blind d r r'
  := by
  apply Blind.bind blind_reportOn
  intro report
  exact blind_require

/-- The directory resolves an actor as well in the one world as in the other. -/
theorem Blind.resolve_bind {actor : Actor} {f : Actor → Service β}
    (h : (f (actor.resolvedIn d)).Blind d r r') :
  (resolve actor >>= f).Blind d r r'
  := by
  intro w w' halike
  obtain rfl := halike.directory
  change (w'.perform _).1 = (w.perform _).1 ∧ World.Alike _ r r' (w.perform _).2 (w'.perform _).2
  rw [World.perform_resolve_bind, World.perform_resolve_bind, halike.directory']
  exact h.perform halike

/-! ### Commits -/

section Commit

variable {policy : Policy} {actor : Actor} {id : ApplicationId} {change : Change α} {a draft : Application}
  {outcome : α} {operation : Operation}

/-- A change leaves the name of the record. -/
theorem ChangeAmends.applicationId (hchange : ChangeAmends (fun _ => True) policy actor change)
    {now : Time.Instant} (h : (w.perform (change a now)).1 = .ok (draft, outcome)) :
  draft.applicationId = a.applicationId
  := by
  obtain ⟨-, σ, hσ⟩ := Program.Obeys.run_reading (hchange a now {} rfl) (w := w) trivial
  change ((change a now).run.run World.answer w).1 = _ at h
  rw [h] at hσ
  exact hσ.2.2.2.applicationId

/-- A commit whose change begins with the look at who asks for it is blind for a record that
the actor may not change. -/
theorem Blind.commit_bind {retries : Nat} {tail : Committed α → Service β} (hout : r.Outlines r')
    (hdeleted : r.isDeleted = false)
    (hchange : ChangeAmends (fun _ => True) policy actor change)
    (hguard : ∀ a now, ∃ rest, change a now = (requireAccess actor operation a >>= fun _ => rest))
    (hdenied : actor.mayDo operation r = false)
    (hblind : ∀ a now, (change a now).Blind d r r') (htail : ∀ done, (tail done).Blind d r r') :
  (commit policy id change retries >>= tail).Blind d r r'
  := by
  intro w w' halike
  change (w'.perform _).1 = (w.perform _).1 ∧ World.Alike d r r' (w.perform _).2 (w'.perform _).2
  rw [World.perform_commit_bind hchange, World.perform_commit_bind hchange]
  obtain ⟨rfl, hfound, hfound'⟩ | ⟨hid, hfetch⟩ := halike.fetch_cases hout hdeleted id
  · obtain ⟨rest, hrest⟩ := hguard r w.clock
    obtain ⟨rest', hrest'⟩ := hguard r' w'.clock
    simp only [hfound, hfound', hrest, hrest', World.perform_requireAccess_bind, hout.mayDo_eq, hdenied,
      hout.applicationId]
    exact ⟨rfl, halike⟩
  · rw [hfetch, halike.clock]
    cases hfound : w.records.fetch id false with
    | none => exact ⟨rfl, halike⟩
    | some before =>
      simp only
      rw [((hblind before w.clock).perform halike).1]
      cases hresult : (w.perform (change before w.clock)).1 with
      | error e => exact ⟨rfl, halike⟩
      | ok result =>
        apply (htail _).perform
        apply halike.write hout
        have hname : before.applicationId = id :=
          Records.applicationId_of_find? (Records.fetch_eq_some_iff.mp hfound).1
        change result.1.applicationId ≠ r.applicationId
        rwa [ChangeAmends.applicationId hchange hresult, hname]

end Commit

end Service

end Rehoming
