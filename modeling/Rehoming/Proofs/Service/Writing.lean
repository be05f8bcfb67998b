import Rehoming.Proofs.Service.Looking
import Rehoming.Proofs.Service.Mutation
/-!
# What requests write

Every request of the service, whatever it is and whoever asks for it, writes by the rule of
its policy: it adds only what a submission may add, and it replaces a record only by what an
operation may make of the record that it has looked up last, at the time that it has read
since then.
-/

namespace Rehoming

/-- Writing by a rule: at the time read last, and from the record found last. -/
def Rule.discipline (R : Rule) : Discipline where
  worlds := R.worlds
  allows
    | σ, .insert a => ∃ now, σ.clock = some now ∧ R.insert now a
    | σ, .update a expected => ∃ now before, σ.clock = some now
      ∧ σ.found = some (before.applicationId, some before)
      ∧ a.applicationId = before.applicationId ∧ expected = before.version
      ∧ R.update now before a
    | _, _ => True

/-- Whether the time and the record that one sight knows are known to another one. -/
def Sight.Includes (σ' σ : Sight) : Prop :=
  (∀ now, σ.clock = some now → σ'.clock = some now)
  ∧ ∀ found, σ.found = some found → σ'.found = some found

namespace Sight

variable {σ σ' : Sight}

theorem includes_empty (σ : Sight) :
  σ.Includes {}
  := by
  simp [Includes]

theorem Includes.after (h : σ'.Includes σ) (call : Call) (answer : call.Answer) :
  (σ'.after call answer).Includes (σ.after call answer)
  := by
  obtain ⟨hclock, hfound⟩ := h
  unfold Sight.after
  split
  case h_1 => exact ⟨fun _ h => h, hfound⟩
  case h_2 | h_4 | h_7 => exact ⟨hclock, hfound⟩
  case h_3 | h_5 | h_6 => exact ⟨fun _ h => h, fun _ h => h⟩

end Sight

variable {β : Type} {R : Rule} {σ σ' : Sight}

/-- Keeping the books writes nothing. -/
theorem Program.Concludes.obeys {α : Type} {p : Program α} {a : α} (h : p.Concludes a) :
  p.Obeys R.discipline (fun _ _ => True) σ
  := by
  induction h generalizing σ with
  | done a => trivial
  | @ask call next a hcall hnext ih =>
    constructor
    · cases call with
      | insert | update => cases hcall
      | _ => trivial
    · intro w _
      apply ih

/-- A transaction writes by its rule, also if more is known than it has learnt itself. -/
theorem Program.Transacts.obeys {reply : Application → β} {p head : Program (Except Refusal β)}
    (h : p.Transacts R reply head σ) (hσ : σ'.Includes σ) :
  p.Obeys R.discipline (fun _ _ => True) σ'
  := by
  induction h generalizing σ' with
  | refused e => trivial
  | @read head call next σ hpermits hnext ih =>
    constructor
    · cases call with
      | insert | update => cases hpermits
      | _ => trivial
    · intro w hw
      apply ih w hw
      apply hσ.after
  | @fetch head id next hnext ih =>
    use trivial
    intro w hw
    apply ih w hw
    apply hσ.after (.fetch id false)
  | @insert head a next σ now hfound hactive active hclock hrule hok herror =>
    use ⟨now, hσ.1 now hclock, hrule⟩
    intro w _
    cases (World.answer (.insert a) w).1 with
    | ok stored => apply (hok stored).obeys
    | error e =>
      rw [herror]
      trivial
  | @update head a before next σ now hfound hactive hname hclock hrule hok herror hagain ih =>
    use ⟨now, before, hσ.1 now hclock, hσ.2 _ hfound, hname, rfl, hrule⟩
    intro w _
    cases (World.answer (.update a before.version) w).1 with
    | ok stored => apply (hok stored).obeys
    | error e =>
      apply ih e
      apply Sight.includes_empty

/-- What only looks writes nothing. -/
theorem Service.Obeys.of_looking {x : Service β}
    (h : x.Obeys looking (fun _ _ => True) (fun _ _ => True) σ) :
  x.Obeys R.discipline (fun _ _ => True) (fun _ _ => True) σ
  := by
  apply h.mono (fun _ _ => trivial) _ (fun _ _ h => h) (fun _ _ h => h)
  intro σ call hcall
  cases call with
  | insert | update => cases hcall
  | _ => trivial

namespace Service

variable {policy : Policy} {actor : Actor}

/-! ### Batches -/

/-- The items of a batch write one after the other, each from what it has found itself. -/
theorem patchEach_obeys {E : Rehoming.World → Prop} {who : Actor → Prop} (hwho : who actor) (p : Patch)
    (ids : List ApplicationId) :
  (patchEach policy p actor ids).Obeys (Rule.ofActors E policy who).discipline (fun _ _ => True) σ
  := by
  induction ids generalizing σ with
  | nil => trivial
  | cons id rest ih =>
    have hone : (patchOne policy id p actor).run.Transacts ((Rule.ofActors E policy who).on (some id))
        (fun stored => stored) (patchOne policy id p actor).run {} :=
      (patchOne_commits hwho p).transacts
    rw [patchEach, Program.bind_eq, Program.obeys_bind]
    apply Program.Obeys.mono (fun _ hw => hw) (fun _ _ hcall => hcall) _ (hone.of_on.obeys σ.includes_empty)
    rintro σ outcome -
    rw [Program.bind_eq, Program.obeys_bind]
    apply Program.Obeys.mono (fun _ hw => hw) (fun _ _ hcall => hcall) _ ih
    rintro σ result -
    cases outcome with
    | ok a => trivial
    | error refusal => trivial

theorem applyBatch_obeys {E : Rehoming.World → Prop} {who : Actor → Prop} (hwho : ∀ actor, who actor)
    (b : Batch) :
  (applyBatch policy b actor).Obeys (Rule.ofActors E policy who).discipline (fun _ _ => True)
    (fun _ _ => True) σ
  := by
  simp only [applyBatch, obeys_bind, obeys_requireNone, implies_true, and_true]
  intro _
  apply obeys_resolve
  · trivial
  intro actor' _
  simp only [obeys_requireScope, obeys_lift, implies_true, and_true]
  intro _
  apply patchEach_obeys (hwho actor')

end Service

/-- Whatever a client asks for, it writes by the rule of the policy. -/
theorem Request.obeys {E : Rehoming.World → Prop} (policy : Policy) (r : Request) :
  (r.service policy).Obeys (Rule.ofActors E policy fun _ => True).discipline
    (fun _ _ => True) (fun _ _ => True) σ
  := by
  cases r with
  | mutation m =>
    have h : (m.service policy).run.Transacts (Rule.ofActors E policy fun _ => True)
        (fun stored => m.reply stored) (m.service policy).run {} :=
      m.transacts fun _ _ => trivial
    apply Service.obeys_any_iff.mpr (h.obeys σ.includes_empty)
  | batch b actor => exact Service.applyBatch_obeys (fun _ => trivial) b
  | _ => exact (Request.looks rfl policy).of_looking

end Rehoming
