import Rehoming.Proofs.Service.Writing
import Rehoming.Proofs.Sharing.System
/-!
# What a turn does to the store

A turn leaves the store alone, adds one record, or replaces one.  A record that a client has
found stays current as long as its version does, so what a write replaces is the record that
the writer has found.
-/

namespace Rehoming

/-! ### Single calls -/

namespace World

variable {w : World} {a : Application} {expected : Nat} {later : Records} {e : StoreError}

theorem answer_insert_ok (h : w.records.insert a = .ok later) :
  answer (.insert a) w = (.ok a, { w with records := later, inserted := w.inserted + 1 })
  := by
  rw [answer, World.insert, h]
  rfl

theorem answer_insert_error (h : w.records.insert a = .error e) :
  answer (.insert a) w = (.error e, w)
  := by
  rw [answer, World.insert, h]
  rfl

theorem answer_update_ok {written : Application}
    (h : w.records.update a expected = .ok (written, later)) :
  answer (.update a expected) w
    = (.ok written, { w with records := later, attached := w.attached + w.newDocuments a })
  := by
  rw [answer, World.update, h]
  rfl

theorem answer_update_error (h : w.records.update a expected = .error e) :
  answer (.update a expected) w = (.error e, w)
  := by
  rw [answer, World.update, h]
  rfl

/-- What a call does to the records: nothing, or it inserts a record, or it writes over the
record of a name. -/
theorem answer_cases (call : Call) (w : World) :
  (call.written (answer call w).1 = none ∧ (answer call w).2.records = w.records)
  ∨ (∃ a, call = .insert a ∧ call.written (answer call w).1 = some (.insertion, a)
      ∧ w.records.insert a = .ok (answer call w).2.records)
  ∨ ∃ a expected written, call = .update a expected
      ∧ call.written (answer call w).1 = some (.update, written)
      ∧ w.records.update a expected = .ok (written, (answer call w).2.records)
  := by
  cases call with
  | insert a =>
    cases h : w.records.insert a with
    | ok later =>
      right
      left
      use a, rfl
      rw [answer_insert_ok h]
      exact ⟨rfl, h⟩
    | error e =>
      left
      rw [answer_insert_error h]
      exact ⟨rfl, rfl⟩
  | update a expected =>
    cases h : w.records.update a expected with
    | ok r =>
      right
      right
      use a, expected, r.1, rfl
      rw [answer_update_ok h]
      exact ⟨rfl, h⟩
    | error e =>
      left
      rw [answer_update_error h]
      exact ⟨rfl, rfl⟩
  | _ =>
    left
    exact ⟨rfl, rfl⟩

/-- What a call has written is the record that is then found under its name. -/
theorem find?_of_written {call : Call} {kind : WriteKind}
    (h : call.written (answer call w).1 = some (kind, a)) :
  (answer call w).2.records.find? a.applicationId = some a
  := by
  obtain ⟨hnone, -⟩ | ⟨inserted, -, hwritten, hinsert⟩
      | ⟨draft, expected, written, -, hwritten, hupdate⟩ := answer_cases call w
  · rw [hnone] at h
    cases h
  · obtain ⟨-, rfl⟩ := Prod.mk.inj (Option.some.inj (hwritten.symm.trans h))
    obtain ⟨hfree, -, hrecords⟩ := Records.insert_eq_ok_iff.mp hinsert
    rw [hrecords, Records.find?_append_of_free hfree, if_pos rfl]
  · obtain ⟨-, rfl⟩ := Prod.mk.inj (Option.some.inj (hwritten.symm.trans h))
    obtain ⟨current, hcurrent, -, rfl, hrecords⟩ := Records.update_eq_ok_iff.mp hupdate
    rw [hrecords, Records.find?_replace, if_pos rfl]
    exact congrArg (Option.map _) hcurrent

/-- No call takes a name away. -/
theorem has_answer {id : ApplicationId} (h : w.records.Has id) (call : Call) :
  (answer call w).2.records.Has id
  := by
  obtain ⟨-, hsame⟩ | ⟨a, rfl, -, hinsert⟩ | ⟨a, expected, written, rfl, -, hupdate⟩ :=
    answer_cases call w
  · rw [hsame]
    exact h
  · exact h.insert hinsert
  · obtain ⟨current, -, -, -, hrecords⟩ := Records.update_eq_ok_iff.mp hupdate
    rw [hrecords]
    exact h.replace

end World

/-! ### What clients have found -/

/-- That what has been found is not out of date unless its version is: the record stored now
under its name has a later version, or is the one found. -/
def Sight.Sound (σ : Sight) (records : Records) : Prop :=
  ∀ id before, σ.found = some (id, some before) →
    before.applicationId = id ∧ before.isDeleted = false
    ∧ ∃ current, records.find? id = some current
      ∧ (before = current ∨ before.version < current.version)

namespace Sight

variable {σ : Sight} {records later : Records} {a written : Application} {expected : Nat}

/-- An insertion leaves what has been found as it is. -/
theorem Sound.insert (h : σ.Sound records) (hinsert : records.insert a = .ok later) :
  σ.Sound later
  := by
  obtain ⟨-, -, rfl⟩ := Records.insert_eq_ok_iff.mp hinsert
  intro id before hfound
  obtain ⟨hname, hdeleted, current, hcurrent, hversion⟩ := h id before hfound
  use hname, hdeleted, current, Records.find?_append hcurrent, hversion

/-- A write raises the version of the record that it replaces. -/
theorem Sound.update (h : σ.Sound records)
    (hupdate : records.update a expected = .ok (written, later)) :
  σ.Sound later
  := by
  obtain ⟨replaced, hreplaced, rfl, rfl, rfl⟩ := Records.update_eq_ok_iff.mp hupdate
  intro id before hfound
  obtain ⟨hname, hdeleted, current, hcurrent, hversion⟩ := h id before hfound
  use hname, hdeleted
  rw [Records.find?_replace]
  by_cases hid : a.applicationId = id
  · subst hid
    rw [hcurrent] at hreplaced
    obtain rfl := Option.some.inj hreplaced
    use { a with version := current.version + 1 }
    simp only [hcurrent, if_pos, Option.map_some, true_and]
    right
    obtain rfl | hlt := hversion
    · apply Nat.lt_succ_self
    · apply Nat.lt_succ_of_lt hlt
  · use current
    simp only [hid, if_false]
    use hcurrent

/-- What is found is current, and stays known until the next write or look. -/
theorem Sound.after (h : σ.Sound records) (call : Call) {w : World} (hw : w.records = records) :
  (σ.after call (World.answer call w).1).Sound records
  := by
  subst hw
  cases call with
  | fetch id includeDeleted =>
    cases includeDeleted with
    | true => apply h
    | false =>
      intro id' before hfound
      obtain ⟨rfl, hfetch⟩ := Prod.mk.inj (Option.some.inj hfound)
      obtain ⟨hstored, hdeleted⟩ := Records.fetch_eq_some_iff.mp hfetch
      use Records.applicationId_of_find? hstored, by simpa using hdeleted, before, hstored
      exact .inl rfl
  | insert | update =>
    intro id before hfound
    cases hfound
  | _ => apply h

/-- A write that does not come too late replaces the record that the writer has found. -/
theorem Sound.find?_of_update {before : Application} (h : σ.Sound records)
    (hfound : σ.found = some (before.applicationId, some before))
    (hname : a.applicationId = before.applicationId)
    (hupdate : records.update a before.version = .ok (written, later)) :
  records.find? before.applicationId = some before ∧ before.isDeleted = false
    ∧ written = { a with version := before.version + 1 } ∧ later = records.replace written
  := by
  obtain ⟨replaced, hreplaced, hversion, hwritten, hlater⟩ := Records.update_eq_ok_iff.mp hupdate
  obtain ⟨-, hdeleted, current, hcurrent, hnewer⟩ := h _ _ hfound
  rw [hname, hcurrent] at hreplaced
  obtain rfl := Option.some.inj hreplaced
  obtain rfl | hlt := hnewer
  · exact ⟨hcurrent, hdeleted, hwritten, hlater⟩
  · omega

end Sight

/-- That what is left of the operation of a client obeys a discipline. -/
def Client.Obeys {α : Type} (D : Discipline) (c : Client α) : Prop :=
  c.program.Obeys D (fun _ _ => True) c.sight

namespace System

variable {ι : Type} {ρ : ι → Type}

/-! ### Turns -/

/-- That no client has found anything out of date. -/
def Sound (s : System ρ) : Prop :=
  ∀ i, (s.clients i).sight.Sound s.world.records

/-- That what is left of every operation writes by a rule. -/
def Obeys (R : Rule) (s : System ρ) : Prop :=
  ∀ i, (s.clients i).Obeys R.discipline

theorem sound_start (w : Rehoming.World) (services : (i : ι) → Service (ρ i)) :
  (start w services).Sound
  := by
  intro i id before hfound
  cases hfound

variable [DecidableEq ι] {s : System ρ} {t : Turn ι} {R : Rule}

/-- What has been found stays sound, whatever the clients do. -/
theorem Sound.move (h : s.Sound) (m : Move ι) :
  (s.move m).Sound
  := by
  cases m with
  | refit directory questions => apply h
  | turn t =>
    apply turn_induction h
    intro call next hprogram i
    have hlater : ∀ σ : Sight, σ.Sound s.world.records →
        σ.Sound (World.answer call (s.worldAt t)).2.records := by
      intro σ hσ
      obtain ⟨-, hsame⟩ | ⟨a, rfl, -, hinsert⟩ | ⟨a, expected, written, rfl, -, hupdate⟩ :=
        World.answer_cases call (s.worldAt t)
      · rw [hsame]
        apply hσ
      · apply hσ.insert hinsert
      · apply hσ.update hupdate
    by_cases hi : i = t.client
    · subst hi
      rw [answer_clients_self]
      apply hlater
      apply (h t.client).after call (w := s.worldAt t) rfl
    · rw [answer_clients_of_ne hi]
      apply hlater _ (h i)

/-- A client goes on obeying, where the worlds may answer. -/
theorem client_obeys_turn {D : Discipline} {i : ι} (h : (s.clients i).Obeys D)
    (hworlds : D.worlds (s.worldAt t)) :
  ((s.turn t).clients i).Obeys D
  := by
  apply turn_induction (P := fun s => (s.clients i).Obeys D) h
  intro call next hprogram
  by_cases hi : i = t.client
  · subst hi
    rw [answer_clients_self]
    rw [Client.Obeys, hprogram] at h
    apply h.2 (s.worldAt t) hworlds
  · rw [answer_clients_of_ne hi]
    apply h

/-- What is left of an operation goes on writing by the rule, where the worlds may answer. -/
theorem Obeys.turn (h : s.Obeys R) (hworlds : R.worlds (s.worldAt t)) :
  (s.turn t).Obeys R
  := fun i => client_obeys_turn (h i) hworlds

/-- What a turn of a client that writes by a rule makes of the records and of the journal. -/
inductive Effect (R : Rule) (s : System ρ) (t : Turn ι) (s' : System ρ) : Prop
  | stay :
      s'.world.records = s.world.records → s'.journal = s.journal → Effect R s t s'
  | insertion (now : Time.Instant) (a : Application) :
      (s.clients t.client).sight.clock = some now → R.insert now a →
      s.world.records.insert a = .ok s'.world.records →
      s'.journal = s.journal ++ [⟨t.client, (s.clients t.client).sight, .insertion, a⟩] →
      Effect R s t s'
  | update (now : Time.Instant) (before a : Application) :
      (s.clients t.client).sight.clock = some now →
      (s.clients t.client).sight.found = some (before.applicationId, some before) →
      R.update now before a → a.applicationId = before.applicationId →
      s.world.records.find? before.applicationId = some before → before.isDeleted = false →
      s'.world.records = s.world.records.replace { a with version := before.version + 1 } →
      s'.journal = s.journal ++ [⟨t.client, (s.clients t.client).sight, .update,
        { a with version := before.version + 1 }⟩] →
      Effect R s t s'

/-- A turn adds what the rule lets one add, or makes of the record stored what the rule lets
one make of it, or does neither. -/
theorem effect_turn (hobeys : (s.clients t.client).Obeys R.discipline) (hsound : s.Sound) :
  Effect R s t (s.turn t)
  := by
  rw [System.turn]
  cases hprogram : (s.clients t.client).program with
  | done result => exact .stay rfl rfl
  | ask call next =>
    change Effect R s t (s.answer t call next)
    rw [Client.Obeys, hprogram] at hobeys
    obtain ⟨hwritten, hsame⟩ | ⟨a, rfl, hwritten, hinsert⟩
        | ⟨a, expected, written, rfl, hwritten, hupdate⟩ := World.answer_cases call (s.worldAt t)
    · refine .stay hsame ?_
      rw [answer_journal, hwritten]
      apply List.append_nil
    · obtain ⟨now, hclock, hrule⟩ := hobeys.1
      refine .insertion now a hclock hrule hinsert ?_
      rw [answer_journal, hwritten]
      rfl
    · obtain ⟨now, before, hclock, hfound, hname, rfl, hrule⟩ := hobeys.1
      obtain ⟨hstored, hdeleted, rfl, hrecords⟩ :=
        (hsound t.client).find?_of_update hfound hname hupdate
      refine .update now before a hclock hfound hrule hname hstored hdeleted hrecords ?_
      rw [answer_journal, hwritten]
      rfl

/-! ### Stored records -/

/-- What is true of every record that a rule lets one add, and stays true of a record when the
rule lets one make something of it, is true of all stored records after a turn. -/
theorem stored_turn {P : Application → Prop} (hobeys : (s.clients t.client).Obeys R.discipline)
    (hsound : s.Sound)
    (hinsert : ∀ now a, R.insert now a → P a)
    (hupdate : ∀ now before a, R.update now before a → P before →
      P { a with version := before.version + 1 })
    (hstored : ∀ a ∈ s.world.records, P a) :
  ∀ a ∈ (s.turn t).world.records, P a
  := by
  intro a ha
  cases effect_turn hobeys hsound with
  | stay hrecords hjournal =>
    rw [hrecords] at ha
    exact hstored a ha
  | insertion now b hclock hrule hinserted hjournal =>
    obtain ⟨-, -, hrecords⟩ := Records.insert_eq_ok_iff.mp hinserted
    rw [hrecords] at ha
    obtain ha | ha := List.mem_append.mp ha
    · exact hstored a ha
    · obtain rfl := List.mem_singleton.mp ha
      exact hinsert now a hrule
  | update now before b hclock hfound hrule hname hcurrent hdeleted hrecords hjournal =>
    rw [hrecords] at ha
    obtain rfl | ⟨ha, -⟩ := Records.mem_replace ha
    · exact hupdate now before b hrule (hstored before (Records.mem_of_find? hcurrent))
    · exact hstored a ha

/-- The record of a name is after a turn as it was, or what the rule lets one make of it. -/
theorem find?_turn (hobeys : (s.clients t.client).Obeys R.discipline) (hsound : s.Sound)
    {id : ApplicationId} {a : Application} (ha : s.world.records.find? id = some a) :
  ∃ b, (s.turn t).world.records.find? id = some b
    ∧ (b = a ∨ ∃ now c, R.update now a c ∧ b = { c with version := a.version + 1 })
  := by
  cases effect_turn hobeys hsound with
  | stay hrecords hjournal =>
    rw [hrecords]
    exact ⟨a, ha, .inl rfl⟩
  | insertion now b hclock hrule hinserted hjournal =>
    obtain ⟨-, -, hrecords⟩ := Records.insert_eq_ok_iff.mp hinserted
    rw [hrecords]
    exact ⟨a, Records.find?_append ha, .inl rfl⟩
  | update now before b hclock hfound hrule hname hcurrent hdeleted hrecords hjournal =>
    rw [hrecords, Records.find?_replace]
    by_cases hid : before.applicationId = id
    · subst hid
      rw [ha] at hcurrent
      obtain rfl := Option.some.inj hcurrent
      rw [if_pos hname, ha]
      exact ⟨_, rfl, .inr ⟨now, b, hrule, rfl⟩⟩
    · rw [if_neg (fun h => hid (hname.symm.trans h))]
      exact ⟨a, ha, .inl rfl⟩

end System

end Rehoming
