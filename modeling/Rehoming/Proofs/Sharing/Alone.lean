import Rehoming.Proofs.Sharing.Effect
/-!
# What a client would do alone

A client that has not written yet would, alone in a world that still looks as the client has
seen it, do what is left of its operation.  Its write succeeds only if the store still looks
so, and after its write it only keeps the books.
-/

namespace Rehoming

/-! ### Seeing a world again -/

/-- Names that are all the same. -/
def Naming.constant (name : String) : Naming :=
  ⟨fun _ => name, fun _ => name, fun _ => name, fun _ => name⟩

/-- The world at the time and with the name that somebody has learnt. -/
def World.seenBy (w : World) (σ : Sight) : World :=
  { w with clock := σ.clock.getD w.clock, naming := .constant (σ.name.getD "") }

/-- That a world looks as it has been seen. -/
structure Sight.Holds (σ : Sight) (w : World) : Prop where
  clock : ∀ now, σ.clock = some now → w.clock = now
  name : ∀ name, σ.name = some name → ∀ kind, w.fresh kind = name
  found : ∀ id found, σ.found = some (id, found) → w.records.fetch id false = found
  active : ∀ user pet found, σ.active = some (user, pet, found) →
    w.records.findActive user pet = found

theorem Sight.holds_empty (w : World) :
  Sight.Holds {} w
  := by
  constructor
  all_goals simp

/-- The worlds with the same directory and the same questions as another one. -/
def World.SameOffice (w w' : World) : Prop :=
  w'.directory = w.directory ∧ w'.questions = w.questions

theorem World.SameOffice.trans {w w' w'' : World} (h : w.SameOffice w') (h' : w'.SameOffice w'') :
  w.SameOffice w''
  := ⟨h'.1.trans h.1, h'.2.trans h.2⟩

theorem World.SameOffice.symm {w w' : World} (h : w.SameOffice w') :
  w'.SameOffice w
  := ⟨h.1.symm, h.2.symm⟩

/-- Nothing that the service asks for changes the directory or the questions. -/
theorem World.sameOffice_answer (call : Call) (w : World) :
  w.SameOffice (World.answer call w).2
  := by
  cases call with
  | insert a =>
    rw [World.answer, World.insert]
    split
    · exact ⟨rfl, rfl⟩
    · exact ⟨rfl, rfl⟩
  | update a expected =>
    rw [World.answer, World.update]
    split
    · exact ⟨rfl, rfl⟩
    · exact ⟨rfl, rfl⟩
  | _ => exact ⟨rfl, rfl⟩

theorem World.sameOffice_run {α : Type} (p : Program α) (w : World) :
  w.SameOffice (p.run World.answer w).2
  := by
  apply Program.run_induction (P := w.SameOffice)
  · intro call w' h
    exact h.trans (World.sameOffice_answer call w')
  · exact ⟨rfl, rfl⟩

/-- A call that only reads is answered as before by a world that looks as it has been seen
since. -/
theorem Sight.Holds.answer_eq {σ : Sight} {call : Call} {w w' : World}
    (hpermits : σ.permits call) (hoffice : w.SameOffice w')
    (h : (σ.after call (World.answer call w).1).Holds w') :
  (World.answer call w').1 = (World.answer call w).1 ∧ σ.Holds w'
  := by
  cases call with
  | now =>
    use h.clock w.clock rfl
    refine ⟨?_, h.name, h.found, h.active⟩
    intro now hnow
    rw [show σ.clock = none from hpermits] at hnow
    cases hnow
  | fresh kind =>
    use h.name (w.fresh kind) rfl kind
    refine ⟨h.clock, ?_, h.found, h.active⟩
    intro name hname
    rw [show σ.name = none from hpermits] at hname
    cases hname
  | findActive user pet =>
    use congrArg Except.ok (h.active user pet _ rfl)
    refine ⟨h.clock, h.name, h.found, ?_⟩
    intro user' pet' found hfound
    rw [show σ.active = none from hpermits] at hfound
    cases hfound
  | findUser | findPet | findStaffRescue =>
    refine ⟨?_, h⟩
    simp only [World.answer]
    rw [hoffice.1]
  | questionsForRescue =>
    refine ⟨?_, h⟩
    simp only [World.answer]
    rw [hoffice.2]
  | insert | update | fetch | search | listForRescue | matchingUsers | matchingPets | record
  | eventsFor | eventsForMany | log => cases hpermits

/-! ### A client that has not written yet -/

/-- That a program is what is left of an operation to a client that has learnt `σ`, and that it
is a transaction that has not written yet: alone in a world that looks as it has been seen the
operation does what is left. -/
def Program.Underway {β : Type} (R : Rule) (reply : Application → β)
    (p o : Program (Except Refusal β)) (σ : Sight) : Prop :=
  ∃ head, (∀ w, R.worlds w → o.run World.answer w = head.run World.answer w)
    ∧ (∀ w, R.worlds w → σ.Holds w → o.run World.answer w = p.run World.answer w)
    ∧ p.Transacts R reply head σ

/-- What keeps the books leaves the records, and stores none. -/
theorem Call.isBookkeeping.quiet {call : Call} (h : call.isBookkeeping = true) (w : World) :
  (World.answer call w).2.records = w.records ∧ call.written (World.answer call w).1 = none
  := by
  cases call with
  | fresh | record | log => exact ⟨rfl, rfl⟩
  | _ => cases h

/-- What only keeps the books returns its value and leaves the records. -/
theorem Program.Concludes.run_eq {α : Type} {p : Program α} {a : α} (h : p.Concludes a)
    (w : Rehoming.World) :
  (p.run World.answer w).1 = a ∧ (p.run World.answer w).2.records = w.records
  := by
  induction h generalizing w with
  | done a => exact ⟨rfl, rfl⟩
  | @ask call next a hcall hnext ih =>
    rw [Program.run_ask, ← (Call.isBookkeeping.quiet hcall w).1]
    apply ih

/-- A call that only reads stores nothing. -/
theorem Sight.permits.written_eq {σ : Sight} {call : Call} (h : σ.permits call)
    (answer : call.Answer) :
  call.written answer = none
  := by
  cases call with
  | now | fresh | findActive | findUser | findPet | findStaffRescue | questionsForRescue => rfl
  | insert | update | fetch | search | listForRescue | matchingUsers | matchingPets | record
  | eventsFor | eventsForMany | log => cases h

/-! ### What a call of a client does -/

section Call

variable {β : Type} {w₀ w : Rehoming.World} {R : Rule} {reply : Application → β}
  {o : Program (Except Refusal β)} {call : Call}
  {next : call.Answer → Program (Except Refusal β)} {σ : Sight} {records later : Records}

/-- That an operation, run alone at the time and with the name that a client has learnt, makes
of some records some later ones and returns a value. -/
def Program.Replays (w₀ : Rehoming.World) (σ : Sight) (records later : Records) (result : β)
    (o : Program (Except Refusal β)) : Prop :=
  ∀ w, w₀.SameOffice w → w.records = records →
    (o.run World.answer (w.seenBy σ)).1 = .ok result
    ∧ (o.run World.answer (w.seenBy σ)).2.records = later

/-- Where a client stands with its operation: it has been refused, it has not written yet, or
it has stored a record and now only keeps the books. -/
inductive Program.Stands (R : Rule) (reply : Application → β) (o : Program (Except Refusal β)) :
    Program (Except Refusal β) → Sight → Option Application → Prop
  | refused {σ : Sight} (refusal : Refusal) : Stands R reply o (.done (.error refusal)) σ none
  | underway {p : Program (Except Refusal β)} {σ : Sight} : p.Underway R reply o σ → Stands R reply o p σ none
  | written {p : Program (Except Refusal β)} {σ : Sight} (stored : Application) :
      p.Concludes (.ok (reply stored)) → Stands R reply o p σ (some stored)

/-- A client that has stored a record answers it in the end. -/
theorem Program.Stands.concludes {p : Program (Except Refusal β)} {stored : Application}
    (h : Program.Stands R reply o p σ (some stored)) :
  p.Concludes (.ok (reply stored))
  := by
  cases h with
  | written _ hconcludes => exact hconcludes

/-- A client that has returned has answered the record that it has stored, or it was refused
and has stored none. -/
theorem Program.Stands.of_done {result : Except Refusal β} {stored : Option Application}
    (h : Program.Stands R reply o (.done result) σ stored) :
  (∃ a, stored = some a ∧ result = .ok (reply a))
  ∨ stored = none ∧ ∃ refusal, result = .error refusal
  := by
  cases h with
  | refused refusal => exact .inr ⟨rfl, refusal, rfl⟩
  | underway hunderway =>
    obtain ⟨head, -, -, htransacts⟩ := hunderway
    cases htransacts with
    | refused refusal => exact .inr ⟨rfl, refusal, rfl⟩
  | written a hconcludes =>
    left
    use a, rfl
    cases hconcludes
    rfl

/-- A world is seen by whoever has found what is stored. -/
theorem Sight.holds_seenBy
    (hfound : ∀ id found, σ.found = some (id, found) → w.records.fetch id false = found)
    (hactive : ∀ user pet found, σ.active = some (user, pet, found) →
      w.records.findActive user pet = found) :
  σ.Holds (w.seenBy σ)
  := by
  refine ⟨?_, ?_, hfound, hactive⟩
  · intro now hnow
    simp [World.seenBy, hnow]
  · intro name hname kind
    cases kind with
    | _ => simp [World.seenBy, World.fresh, Naming.constant, hname]

/-- A submission whose insertion succeeds would succeed alone. -/
theorem Program.Replays.insert {a : Application}
    {next : (Call.insert a).Answer → Program (Except Refusal β)}
    (halone : ∀ w', w₀.SameOffice w' → σ.Holds w' →
      o.run World.answer w' = (ask (.insert a) next).run World.answer w')
    (hfound : σ.found = none) (hactive : σ.active = some (a.userId, a.petId, none))
    (active : a.isActive = true) (hok : (next (.ok a)).Concludes (.ok (reply a)))
    (hinsert : records.insert a = .ok later) :
  o.Replays w₀ σ records later (reply a)
  := by
  rintro w hw rfl
  have hholds : σ.Holds (w.seenBy σ) := by
    apply Sight.holds_seenBy
    · rw [hfound]
      rintro id found ⟨⟩
    · rw [hactive]
      rintro user pet found ⟨⟩
      obtain ⟨-, hrivals, -⟩ := Records.insert_eq_ok_iff.mp hinsert
      apply Records.findActive_eq_none_iff.mpr
      intro b hb hactive
      exact hrivals active b hb hactive
  rw [halone (w.seenBy σ) hw hholds, Program.run_ask]
  have hseen : (w.seenBy σ).records.insert a = .ok later := hinsert
  rw [World.answer_insert_ok hseen]
  apply hok.run_eq

/-- A change whose write does not come too late would succeed alone. -/
theorem Program.Replays.update {a before written : Application}
    {next : (Call.update a before.version).Answer → Program (Except Refusal β)}
    (halone : ∀ w', w₀.SameOffice w' → σ.Holds w' →
      o.run World.answer w' = (ask (.update a before.version) next).run World.answer w')
    (hsound : σ.Sound records) (hfound : σ.found = some (before.applicationId, some before))
    (hactive : σ.active = none) (hname : a.applicationId = before.applicationId)
    (hok : (next (.ok written)).Concludes (.ok (reply written)))
    (hupdate : records.update a before.version = .ok (written, later)) :
  o.Replays w₀ σ records later (reply written)
  := by
  rintro w hw rfl
  obtain ⟨hstored, hdeleted, -, -⟩ := hsound.find?_of_update hfound hname hupdate
  have hholds : σ.Holds (w.seenBy σ) := by
    apply Sight.holds_seenBy
    · rw [hfound]
      rintro id found ⟨⟩
      exact Records.fetch_eq_some_iff.mpr ⟨hstored, .inr hdeleted⟩
    · rw [hactive]
      rintro user pet found ⟨⟩
  rw [halone (w.seenBy σ) hw hholds, Program.run_ask]
  have hseen : (w.seenBy σ).records.update a before.version = .ok (written, later) := hupdate
  rw [World.answer_update_ok hseen]
  apply hok.run_eq

/-- A client that has not written yet goes on without writing, or stores a record, and then
its operation would have done so alone. -/
theorem Program.Underway.answer (hR : R.worlds = w₀.SameOffice) (hw : w₀.SameOffice w)
    (hsound : σ.Sound w.records) (h : (ask call next).Underway R reply o σ) :
  (call.written (World.answer call w).1 = none ∧ (World.answer call w).2.records = w.records
    ∧ Program.Stands R reply o (next (World.answer call w).1) (σ.after call (World.answer call w).1) none)
  ∨ ∃ kind stored now, call.written (World.answer call w).1 = some (kind, stored)
    ∧ σ.clock = some now ∧ (next (World.answer call w).1).Concludes (.ok (reply stored))
    ∧ o.Replays w₀ σ w.records (World.answer call w).2.records (reply stored)
  := by
  obtain ⟨head, hbegin, halone, htransacts⟩ := h
  rw [hR] at hbegin halone
  cases htransacts with
  | read hpermits hnext =>
    left
    use hpermits.written_eq _
    rw [hpermits.world_eq]
    use rfl
    apply Stands.underway
    use head
    rw [hR]
    use hbegin
    refine ⟨?_, hnext w (hR ▸ hw)⟩
    intro w' hw' hholds
    obtain ⟨hanswer, hholds'⟩ := hholds.answer_eq hpermits (hw.symm.trans hw')
    rw [halone w' hw' hholds', run_ask, hanswer, hpermits.world_eq]
  | @fetch head id next hnext =>
    left
    use rfl, rfl
    apply Stands.underway
    use .ask (.fetch id false) next
    rw [hR]
    refine ⟨?_, ?_, hnext w (hR ▸ hw)⟩
    · intro w' hw'
      apply halone w' hw' (Sight.holds_empty w')
    · intro w' hw' hholds
      rw [halone w' hw' (Sight.holds_empty w'), run_ask]
      simp only [World.answer]
      rw [hholds.found id _ rfl]
  | @insert head a next σ now hfound hactive active hclock hrule hok herror =>
    cases hinsert : w.records.insert a with
    | ok later =>
      right
      rw [World.answer_insert_ok hinsert]
      use .insertion, a, now, rfl, hclock, hok a
      apply Replays.insert halone hfound hactive active (hok a) hinsert
    | error e =>
      left
      rw [World.answer_insert_error hinsert]
      use rfl, rfl
      rw [herror]
      apply Stands.refused
  | @update head a before next σ now hfound hactive hname hclock hrule hok hlate hagain =>
    cases hupdate : w.records.update a before.version with
    | ok r =>
      right
      rw [World.answer_update_ok hupdate]
      use .update, r.1, now, rfl, hclock, hok r.1
      apply Replays.update halone hsound hfound hactive hname (hok r.1) hupdate
    | error e =>
      left
      rw [World.answer_update_error hupdate]
      use rfl, rfl
      obtain ⟨refusal, hrefused⟩ | hhead := hagain e
      · rw [hrefused]
        apply Stands.refused
      · -- What has been learnt is lost with the late write, but what is left is the whole
        -- operation again.
        rw [hR] at hhead
        apply Stands.underway
        use head
        rw [hR]
        use hbegin
        refine ⟨?_, hlate e⟩
        intro w' hw' _
        rw [hbegin w' hw', hhead w' hw']

end Call

end Rehoming
