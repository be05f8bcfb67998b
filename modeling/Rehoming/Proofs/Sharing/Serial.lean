import Rehoming.Proofs.Sharing.Alone
import Rehoming.Proofs.Sharing.Requests
import Mathlib.Data.List.Nodup
/-!
# Mutations are serializable

Clients that share a world and run one mutation each leave the records that the mutations
whose writes have succeeded leave when they run alone, one after the other in the order of
their writes.
-/

namespace Rehoming

variable {ι : Type} {ρ : ι → Type}

/-- Runs the operations that the entries of a journal tell of, alone and one after the other,
each at the time and with the name that its client had learnt when it wrote: what they
return, and the world that they leave behind. -/
def serial (services : (i : ι) → Service (ρ i)) (w : World) :
    List (Entry ι) → List ((i : ι) × Except Refusal (ρ i)) × World
  | [] => ([], w)
  | e :: rest =>
    let (result, w) := (w.seenBy e.sight).perform (services e.client)
    let (results, w) := serial services w rest
    (⟨e.client, result⟩ :: results, w)

section Serial

variable {services : (i : ι) → Service (ρ i)} {w : World} {journal : List (Entry ι)}

theorem serial_append (journal' : List (Entry ι)) :
  serial services w (journal ++ journal')
    = ((serial services w journal).1 ++ (serial services (serial services w journal).2 journal').1,
        (serial services (serial services w journal).2 journal').2)
  := by
  induction journal generalizing w with
  | nil => rfl
  | cons e rest ih => simp only [List.cons_append, serial, ih]

theorem sameOffice_serial :
  w.SameOffice (serial services w journal).2
  := by
  induction journal generalizing w with
  | nil => exact ⟨rfl, rfl⟩
  | cons e rest ih =>
    have hfirst : w.SameOffice ((w.seenBy e.sight).perform (services e.client)).2 :=
      World.sameOffice_run (services e.client).run (w.seenBy e.sight)
    apply hfirst.trans
    apply ih

end Serial

namespace System

variable [DecidableEq ι]

/-- The record that a client has stored. -/
def stored (s : System ρ) (i : ι) : Option Application :=
  (s.journal.find? fun e => e.client = i).map Entry.record

section Stored

variable {s s' : System ρ} {e : Entry ι} {i : ι}

theorem stored_of_journal_eq (h : s'.journal = s.journal) :
  s'.stored i = s.stored i
  := by
  rw [stored, stored, h]

theorem stored_of_journal_append (h : s'.journal = s.journal ++ [e]) :
  s'.stored i = (s.stored i).or (if e.client = i then some e.record else none)
  := by
  rw [stored, stored, h, List.find?_append, Option.map_or]
  by_cases hi : e.client = i
  · simp [hi]
  · simp [hi]

theorem stored_eq_none_iff :
  s.stored i = none ↔ ∀ e ∈ s.journal, e.client ≠ i
  := by
  simp [stored]

theorem mem_journal_of_stored {a : Application} (h : s.stored i = some a) :
  ∃ e ∈ s.journal, e.client = i ∧ e.record = a
  := by
  obtain ⟨e, he, hrecord⟩ := Option.map_eq_some_iff.mp h
  use e, List.mem_of_find?_eq_some he
  use by simpa using List.find?_some he

/-- Of a client that has no two entries, the record of each entry is the one it has stored. -/
theorem stored_of_mem_journal (h : (s.journal.map Entry.client).Nodup) (he : e ∈ s.journal) :
  s.stored e.client = some e.record
  := by
  cases hstored : s.stored e.client with
  | none => cases stored_eq_none_iff.mp hstored e he rfl
  | some a =>
    obtain ⟨e', he', hclient, rfl⟩ := mem_journal_of_stored hstored
    rw [List.inj_on_of_nodup_map h he' he hclient]

end Stored

section Written

variable {s : System ρ} {t : Turn ι} {e : Entry ι} {moves : List (Move ι)}

/-- A turn leaves the journal alone, or it adds an entry of its client, the record of which is then
found under its name. -/
theorem journal_turn_cases (s : System ρ) (t : Turn ι) :
  (s.turn t).journal = s.journal
  ∨ ∃ e : Entry ι, e.client = t.client ∧ (s.turn t).journal = s.journal ++ [e]
      ∧ (s.turn t).world.records.find? e.record.applicationId = some e.record
  := by
  cases hprogram : (s.clients t.client).program with
  | done result =>
    left
    rw [turn, hprogram]
  | ask call next =>
    rw [turn_eq hprogram, answer_journal]
    cases hwritten : call.written (World.answer call (s.worldAt t)).1 with
    | none =>
      left
      apply List.append_nil
    | some write =>
      right
      exact ⟨_, rfl, rfl, World.find?_of_written hwritten⟩

/-- Right after the turn of an entry its record is the one found under its name. -/
theorem exists_turn_of_mem_journal (he : e ∈ (s.run moves).journal) :
  e ∈ s.journal
  ∨ ∃ earlier t later, moves = earlier ++ .turn t :: later ∧ t.client = e.client
      ∧ ((s.run earlier).turn t).journal = (s.run earlier).journal ++ [e]
      ∧ ((s.run earlier).turn t).world.records.find? e.record.applicationId = some e.record
  := by
  induction moves generalizing s with
  | nil => exact .inl he
  | cons m rest ih =>
    obtain hearly | ⟨earlier, t, later, rfl, hturn⟩ := ih (s := s.move m) he
    · cases m with
      | refit directory questions => exact .inl hearly
      | turn t =>
        obtain hsame | ⟨e', hclient, hjournal, hfound⟩ := journal_turn_cases s t
        · exact .inl (hsame ▸ hearly)
        · rw [move, hjournal] at hearly
          obtain hbefore | hnew := List.mem_append.mp hearly
          · exact .inl hbefore
          · obtain rfl := List.mem_singleton.mp hnew
            exact .inr ⟨[], t, rest, rfl, hclient.symm, hjournal, hfound⟩
    · exact .inr ⟨m :: earlier, t, later, rfl, hturn⟩

end Written

/-- The invariant of clients that run one mutation each: each of them stands somewhere with
it, has written at most once, and those that have written would have returned the same and
left the same records alone, one after the other. -/
structure Serializes (policy : Policy) (mutations : ι → Mutation) (w : Rehoming.World)
    (s : System fun i => (mutations i).Reply) : Prop where
  office : w.SameOffice s.world
  sound : s.Sound
  stands : ∀ i, Program.Stands (Rule.ofActors w.SameOffice policy fun _ => True)
    (fun stored => (mutations i).reply stored) ((mutations i).service policy).run
    (s.clients i).program (s.clients i).sight (s.stored i)
  once : (s.journal.map Entry.client).Nodup
  timed : ∀ e ∈ s.journal, ∃ now, e.sight.clock = some now
  replies : (serial (fun i => (mutations i).service policy) w s.journal).1
    = s.journal.map fun e => ⟨e.client, .ok ((mutations e.client).reply e.record)⟩
  records : (serial (fun i => (mutations i).service policy) w s.journal).2.records = s.world.records

section Invariant

variable {policy : Policy} {mutations : ι → Mutation} {w : Rehoming.World} {t : Turn ι}
  {s : System fun i => (mutations i).Reply} {call : Call}
  {next : call.Answer → Program (Except Refusal (mutations t.client).Reply)}

theorem serializes_start :
  Serializes policy mutations w (start w fun i => (mutations i).service policy)
  := by
  refine ⟨⟨rfl, rfl⟩, sound_start w _, ?_, List.nodup_nil, ?_, rfl, rfl⟩
  case refine_2 => rintro e ⟨⟩
  intro i
  apply Program.Stands.underway
  use ((mutations i).service policy).run
  refine ⟨fun _ _ => rfl, fun _ _ _ => rfl, ?_⟩
  apply (mutations i).transacts
  intro actor' _
  trivial

/-- A call that stores nothing leaves the invariant if the client still stands somewhere. -/
theorem Serializes.quiet (h : Serializes policy mutations w s)
    (hprogram : (s.clients t.client).program = .ask call next)
    (hwritten : call.written (World.answer call (s.worldAt t)).1 = none)
    (hrecords : (World.answer call (s.worldAt t)).2.records = s.world.records)
    (hstands : Program.Stands (Rule.ofActors w.SameOffice policy fun _ => True)
      (fun stored => (mutations t.client).reply stored) ((mutations t.client).service policy).run
      (next (World.answer call (s.worldAt t)).1)
      ((s.clients t.client).sight.after call (World.answer call (s.worldAt t)).1)
      (s.stored t.client)) :
  Serializes policy mutations w (s.turn t)
  := by
  have hsound := h.sound.move (.turn t)
  rw [System.move, turn_eq hprogram] at hsound
  rw [turn_eq hprogram]
  have hjournal : (s.answer t call next).journal = s.journal := by
    rw [answer_journal, hwritten]
    apply List.append_nil
  constructor
  case office => exact h.office.trans (World.sameOffice_answer call (s.worldAt t))
  case sound => exact hsound
  case stands =>
    intro i
    rw [stored_of_journal_eq hjournal]
    by_cases hi : i = t.client
    · subst hi
      rw [answer_clients_self]
      apply hstands
    · rw [answer_clients_of_ne hi]
      apply h.stands
  case once =>
    rw [hjournal]
    exact h.once
  case timed =>
    rw [hjournal]
    exact h.timed
  case replies =>
    rw [hjournal]
    exact h.replies
  case records =>
    rw [hjournal, h.records]
    exact hrecords.symm

/-- A write of a client that has not written yet, and that it would do alone, adds its operation
to those that run one after the other. -/
theorem Serializes.write (h : Serializes policy mutations w s)
    (hprogram : (s.clients t.client).program = .ask call next) {kind : WriteKind}
    {record : Application} {now : Time.Instant} (hnone : s.stored t.client = none)
    (hwritten : call.written (World.answer call (s.worldAt t)).1 = some (kind, record))
    (hclock : (s.clients t.client).sight.clock = some now)
    (hconcludes : (next (World.answer call (s.worldAt t)).1).Concludes
      (.ok ((mutations t.client).reply record)))
    (hreplays : ((mutations t.client).service policy).run.Replays w (s.clients t.client).sight
      s.world.records (World.answer call (s.worldAt t)).2.records
      ((mutations t.client).reply record)) :
  Serializes policy mutations w (s.turn t)
  := by
  have hsound := h.sound.move (.turn t)
  rw [System.move, turn_eq hprogram] at hsound
  rw [turn_eq hprogram]
  have hjournal : (s.answer t call next).journal
      = s.journal ++ [⟨t.client, (s.clients t.client).sight, kind, record⟩] := by
    rw [answer_journal, hwritten]
    rfl
  -- The operation replays in the world that those before it leave, which need not have the
  -- same events or audit entries as the shared one.
  obtain ⟨hresult, hlater⟩ := hreplays _ sameOffice_serial h.records
  constructor
  case office => exact h.office.trans (World.sameOffice_answer call (s.worldAt t))
  case sound => exact hsound
  case stands =>
    intro i
    rw [stored_of_journal_append hjournal]
    by_cases hi : i = t.client
    · subst hi
      rw [answer_clients_self, hnone, if_pos rfl]
      apply Program.Stands.written record hconcludes
    · rw [answer_clients_of_ne hi, if_neg (Ne.symm hi), Option.or_none]
      apply h.stands
  case once =>
    rw [hjournal, List.map_append, List.map_singleton]
    apply List.Nodup.append h.once (List.nodup_singleton _)
    rw [List.disjoint_singleton]
    intro hmem
    obtain ⟨e, he, hclient⟩ := List.mem_map.mp hmem
    exact stored_eq_none_iff.mp hnone e he hclient
  case timed =>
    rw [hjournal]
    intro e he
    obtain he | he := List.mem_append.mp he
    · apply h.timed e he
    · obtain rfl := List.mem_singleton.mp he
      use now
  case replies =>
    rw [hjournal, serial_append, List.map_append, h.replies]
    simp only [serial, World.perform, hresult, List.map_cons, List.map_nil]
  case records =>
    rw [hjournal, serial_append]
    exact hlater

/-- The invariant is preserved by every turn of every client. -/
theorem Serializes.turn (h : Serializes policy mutations w s) :
  Serializes policy mutations w (s.turn t)
  := by
  cases hprogram : (s.clients t.client).program with
  | done result =>
    rw [System.turn, hprogram]
    exact h
  | ask call next =>
    have hstands := h.stands t.client
    rw [hprogram] at hstands
    generalize hsight : (s.clients t.client).sight = σ at hstands
    generalize hstored : s.stored t.client = stored at hstands
    cases hstands with
    | underway hunderway =>
      subst hsight
      obtain ⟨hwritten, hrecords, hstands⟩ | ⟨kind, record, now, hwritten, hclock, hconcludes, hreplays⟩ :=
        hunderway.answer (w := s.worldAt t) rfl h.office (h.sound t.client)
      · apply h.quiet hprogram hwritten hrecords
        rw [hstored]
        apply hstands
      · apply h.write hprogram hstored hwritten hclock hconcludes hreplays
    | written record hconcludes =>
      cases hconcludes with
      | ask hcall hnext =>
        obtain ⟨hrecords, hwritten⟩ := Call.isBookkeeping.quiet hcall (s.worldAt t)
        apply h.quiet hprogram hwritten hrecords
        rw [hstored]
        apply Program.Stands.written record
        apply hnext

end Invariant

/-- Mutations of clients that take turns in any order, at any times, from any world, are
serializable.  The journal has an entry for each mutation whose write has succeeded, in the
order of the writes, and none twice.  These mutations alone, one after the other, each at the
time and with the name of its write, return the same as they do here, the records they have
stored, and leave the same records.  Every client that has returned has either an entry and
answers the record it has stored, or it was refused and has written nothing. -/
theorem mutations_serializable (policy : Policy) (mutations : ι → Mutation) (w : Rehoming.World)
    (turns : List (Turn ι)) :
  let services := fun i => (mutations i).service policy
  let s := (start w services).run (turns.map .turn)
  (serial services w s.journal).2.records = s.world.records
  ∧ (serial services w s.journal).1
    = s.journal.map (fun e => ⟨e.client, .ok ((mutations e.client).reply e.record)⟩)
  ∧ (s.journal.map Entry.client).Nodup
  ∧ (∀ e ∈ s.journal, (∃ now, e.sight.clock = some now)
    ∧ (s.clients e.client).program.Concludes (.ok ((mutations e.client).reply e.record)))
  ∧ ∀ i result, (s.clients i).program = .done result →
    (∃ e ∈ s.journal, e.client = i ∧ result = .ok ((mutations i).reply e.record))
    ∨ ((∃ refusal, result = .error refusal) ∧ ∀ e ∈ s.journal, e.client ≠ i)
  := by
  intro services s
  have h : Serializes policy mutations w s := by
    apply run_induction _ serializes_start
    intro m hm s hs
    obtain ⟨t, -, rfl⟩ := List.mem_map.mp hm
    apply hs.turn
  refine ⟨h.records, h.replies, h.once, ?_, ?_⟩
  · intro e he
    use h.timed e he
    have hstands := h.stands e.client
    rw [stored_of_mem_journal h.once he] at hstands
    exact hstands.concludes
  · intro i result hdone
    have hstands := h.stands i
    rw [hdone] at hstands
    obtain ⟨a, ha, rfl⟩ | ⟨hnone, hrefused⟩ := hstands.of_done
    · left
      obtain ⟨e, he, hclient, rfl⟩ := mem_journal_of_stored ha
      use e, he, hclient
    · right
      use hrefused
      apply stored_eq_none_iff.mp hnone

end System

/-! ### Two uploads at once -/

namespace Demo

/-- The adopter applies for a pet, and attaches two documents to the application. -/
def uploads : Fin 3 → Mutation
  | 0 => .submit (submission rufus) adopter
  | 1 => .attach ⟨"app-1"⟩ ⟨"id", "id.pdf", "files/id.pdf"⟩ adopter
  | 2 => .attach ⟨"app-1"⟩ ⟨"lease", "lease.pdf", "files/lease.pdf"⟩ adopter

/-- An order of turns in which both uploads look up the application before either writes it,
one turn a second. -/
def overlap : List (Turn (Fin 3)) :=
  let clients : List (Fin 3) :=
    List.replicate 11 0 ++ List.replicate 3 1 ++ List.replicate 8 2 ++ List.replicate 9 1
  clients.zipIdx.map fun (client, second) => ⟨client, .ofSeconds second 0, .numbered⟩

/-- The upload that comes too late starts over, and both documents are kept. -/
example :
    ((System.start { world .numbered ⟨0⟩ with questions := [], records := [] }
        fun i => (uploads i).service policy).run (overlap.map .turn)).journal.map
      (fun e => (e.client, e.record.documents.map Document.fileName))
    = [(0, []), (2, ["lease.pdf"]), (1, ["lease.pdf", "id.pdf"])]
  := by
  decide +kernel

end Demo

end Rehoming
