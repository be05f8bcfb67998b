import Rehoming.Proofs.Performing.Mutation
import Rehoming.Proofs.Service.Authority
/-!
# Whose records a request changes

A request adds one record of its own actor, or it changes records that it names, each as its
actor may; all other records stay as they are.
-/

namespace Rehoming

namespace Records

/-- That the same names are stored as before, and that only records of some names have changed,
each as an actor may change it. -/
structure AmendedBy (actor : Actor) (targets : List ApplicationId) (before after : Records) : Prop where
  missing : ∀ id, before.find? id = none → after.find? id = none
  stored : ∀ id a, before.find? id = some a → ∃ b, after.find? id = some b
    ∧ (b = a ∨ id ∈ targets ∧ a.AmendedBy actor b)

/-- That an actor has changed records of some names, or has added a record of its own. -/
inductive ChangedBy (actor : Actor) (targets : List ApplicationId) (before after : Records) : Prop
  | amended : before.AmendedBy actor targets after → ChangedBy actor targets before after
  | created (a : Application) :
      before.find? a.applicationId = none → a.userId = actor.userId → after = before ++ [a] →
      ChangedBy actor targets before after

variable {actor : Actor} {targets more : List ApplicationId} {before between after : Records}
  {a b : Application}

theorem AmendedBy.refl (records : Records) :
  records.AmendedBy actor targets records
  := ⟨fun _ h => h, fun _ a h => ⟨a, h, .inl rfl⟩⟩

theorem AmendedBy.trans (h : before.AmendedBy actor targets between)
    (h' : between.AmendedBy actor targets after) :
  before.AmendedBy actor targets after
  := by
  constructor
  case missing =>
    intro id hid
    apply h'.missing id (h.missing id hid)
  case stored =>
    intro id a ha
    obtain ⟨b, hb, hab⟩ := h.stored id a ha
    obtain ⟨c, hc, hbc⟩ := h'.stored id b hb
    use c, hc
    obtain rfl | ⟨hid, hab⟩ := hab
    · exact hbc
    · right
      obtain rfl | ⟨-, hbc⟩ := hbc
      · exact ⟨hid, hab⟩
      · exact ⟨hid, hab.trans hbc⟩

theorem AmendedBy.mono (h : before.AmendedBy actor targets after)
    (htargets : ∀ id ∈ targets, id ∈ more) :
  before.AmendedBy actor more after
  := by
  use h.missing
  intro id a ha
  obtain ⟨b, hb, hab⟩ := h.stored id a ha
  use b, hb
  exact hab.imp_right (And.imp_left (htargets id))

/-- Writing over a record that is stored changes nothing else. -/
theorem AmendedBy.replace (hstored : before.find? a.applicationId = some a)
    (htarget : a.applicationId ∈ targets) (h : a.AmendedBy actor b) :
  before.AmendedBy actor targets (before.replace b)
  := by
  have hname := h.names.1
  constructor
  case missing =>
    intro id hid
    rw [find?_replace, hid]
    simp
  case stored =>
    intro id c hc
    rw [find?_replace, hc, hname]
    by_cases hid : a.applicationId = id
    · subst hid
      obtain rfl := Option.some.inj (hstored.symm.trans hc)
      use b
      rw [if_pos rfl]
      exact ⟨rfl, .inr ⟨htarget, h⟩⟩
    · use c
      rw [if_neg hid]
      exact ⟨rfl, .inl rfl⟩

end Records

/-! ### Actors -/

section Actor

variable {actor actor' : Actor} {d : Directory} {w : World} {a : Application}

theorem Actor.resolvedIn_resolvedIn :
  (actor.resolvedIn d).resolvedIn d = actor.resolvedIn d
  := by
  unfold resolvedIn
  split
  · split <;> rfl
  · rfl

/-- Whoever an actor acts as in a world has no more authority than the one that the directory
makes of the actor. -/
theorem Actor.ActsAs.administers (h : actor.ActsAs w.SameOffice actor')
    (hadministers : actor'.Administers a) :
  (actor.resolvedIn w.directory).Administers a
  := by
  cases h with
  | itself =>
    rw [resolvedIn]
    split
    next hstaff =>
      obtain hadmin | ⟨-, hrescue⟩ := hadministers
      · rw [hstaff.1] at hadmin
        cases hadmin
      · rw [hstaff.2] at hrescue
        cases hrescue
    next => exact hadministers
  | staff w' hw hrole hrescue =>
    rw [resolvedIn, if_pos ⟨hrole, hrescue⟩, ← hw.1]
    exact hadministers

theorem Actor.ActsAs.userId (h : actor.ActsAs w.SameOffice actor') :
  actor'.userId = actor.userId
  := by
  cases h with
  | itself | staff => rfl

end Actor

/-! ### Requests -/

section

variable {policy : Policy} {w : World} {m : Mutation} {stored : Application} {later : Records}

/-- What a mutation writes its actor may write. -/
theorem Mutation.changedBy_of_writes
    (h : (m.rule policy w).Writes w.clock w.records stored later) :
  (∃ id, m.target = some id
    ∧ w.records.AmendedBy (m.actor.resolvedIn w.directory) [id] later)
  ∨ m.target = none ∧ w.records.find? stored.applicationId = none
    ∧ stored.userId = m.actor.userId ∧ later = w.records ++ [stored]
  := by
  cases h with
  | insertion a later hrule hinsert =>
    obtain ⟨htarget, actor, hactor, ⟨s, name, pet, -, -, -, -⟩⟩ := hrule
    obtain ⟨hfree, -, hlater⟩ := Records.insert_eq_ok_iff.mp hinsert
    right
    exact ⟨htarget, hfree, hactor.userId, hlater⟩
  | update before a hrule hname hstored hdeleted =>
    obtain ⟨htarget, actor, draft, hactor, hamends, rfl⟩ := hrule
    left
    use before.applicationId, htarget
    apply Records.AmendedBy.replace hstored (by simp)
    -- The stamps and the version are none of the fields that an authority is needed for.
    have hdraft : before.AmendedBy (m.actor.resolvedIn w.directory) draft :=
      hamends.amendedBy.of_actor (by simp [hactor.userId]) hactor.administers
    obtain ⟨hnames, hauthority, hcontents, hdecision, hreferences⟩ := hdraft
    exact ⟨hnames, hauthority, hcontents, hdecision, hreferences⟩

theorem Mutation.perform_changedBy (policy : Policy) (m : Mutation) (w : World) :
  w.records.ChangedBy (m.actor.resolvedIn w.directory) m.target.toList
    (w.perform (m.service policy)).2.records
  := by
  obtain ⟨e, hrefused⟩ | ⟨stored, -, hwrites⟩ := m.perform_cases policy w
  · rw [hrefused]
    exact .amended (.refl w.records)
  · obtain ⟨id, htarget, hamended⟩ | ⟨htarget, hfree, huser, hlater⟩ := changedBy_of_writes hwrites
    · rw [htarget]
      exact .amended hamended
    · exact .created stored hfree (by simp [huser]) hlater

/-- The items of a batch change records that the batch names, each as its actor may. -/
theorem World.performEach_amendedBy {policy : Policy} {p : Patch} {actor : Actor} {w : World}
    {ids : List ApplicationId} (hactor : actor.resolvedIn w.directory = actor) :
  w.records.AmendedBy actor ids (w.afterItems (w.performEach policy p actor ids)).records
  := by
  have hoffice : w.SameOffice (w.afterItems (w.performEach policy p actor ids))
      ∧ w.records.AmendedBy actor ids (w.afterItems (w.performEach policy p actor ids)).records := by
    apply World.performEach_induction (P := fun w' =>
      w.SameOffice w' ∧ w.records.AmendedBy actor ids w'.records)
    · exact ⟨⟨rfl, rfl⟩, .refl w.records⟩
    rintro id hid w' ⟨hoffice, hamended⟩
    use hoffice.trans (World.sameOffice_run _ w')
    obtain ⟨e, hrefused⟩ | ⟨stored, -, hwrites⟩ := (Mutation.patch id p actor).perform_cases policy w'
    · change w'.perform (Service.patchOne policy id p actor) = (.error e, w') at hrefused
      rw [hrefused]
      exact hamended
    · obtain ⟨id', htarget, hitem⟩ | ⟨htarget, -⟩ := Mutation.changedBy_of_writes hwrites
      · obtain rfl := Option.some.inj htarget
        rw [hoffice.1] at hitem
        change Records.AmendedBy (actor.resolvedIn w.directory) _ _ _ at hitem
        rw [hactor] at hitem
        apply hamended.trans
        apply hitem.mono
        simpa using hid
      · cases htarget
  exact hoffice.2

/-- Whatever somebody asks for, nothing else changes than records which the request names and
the actor may change, or the actor has one record more. -/
theorem Request.perform_changedBy {r : Request} {actor : Actor} (hactor : r.AskedBy actor)
    (policy : Policy) (w : World) :
  w.records.ChangedBy (actor.resolvedIn w.directory) r.targets
    (w.perform (r.service policy)).2.records
  := by
  cases r with
  | mutation m =>
    obtain rfl : m.actor = actor := hactor
    exact m.perform_changedBy policy w
  | batch b asker =>
    obtain rfl : asker = actor := hactor
    apply Records.ChangedBy.amended
    obtain ⟨e, hrefused⟩ | ⟨items, rfl, hitems⟩ := Service.perform_applyBatch policy b asker w
    · change w.perform (service policy (.batch b asker)) = (.error e, w) at hrefused
      rw [hrefused]
      exact .refl w.records
    · change w.perform (service policy (.batch b asker)) = _ at hitems
      rw [hitems]
      apply World.performEach_amendedBy Actor.resolvedIn_resolvedIn
  | _ =>
    apply Records.ChangedBy.amended
    rw [perform_snd_of_isLook rfl]
    exact .refl w.records

end

end Rehoming
