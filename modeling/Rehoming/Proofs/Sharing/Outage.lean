import Rehoming.Proofs.Service.Heedless
import Rehoming.Proofs.Sharing.Alone
import Rehoming.Proofs.Sharing.Requests
import Rehoming.World.Disturbance
/-!
# Books that are out of order

Whenever a client enters something into the timeline or the audit log, the entry may fail.  A run
with any such failures is laid beside the run of the same turns in which none fails.  The books of
the one are those of the other with events and entries left out; besides the books the worlds are
the same, and so is whatever is answered to clients that do not ask for timelines.
-/

namespace Rehoming

/-! ### Calls -/

/-- The faults of books that take nothing in, for a reason. -/
def Fault.ofBooks (reason : String) : List Fault :=
  [.record, .log].map fun method => ⟨method, .store (.unavailable reason), reason, none⟩

/-- The answer to a call, and the world after it, where the books are out of order for a reason,
or work. -/
def World.answerAmid (outage : Option String) : Program.World World := fun call w =>
  let (answer, d) := DisturbedWorld.answer call
    { world := w, faults := (outage.map Fault.ofBooks).getD [] }
  (answer, d.world)

/-- That a world is another one with events and entries left out, at any time. -/
def World.Abridges (w' w : World) : Prop :=
  ∃ naming clock timeline audit, timeline.Sublist w.timeline ∧ audit.Sublist w.audit
    ∧ w' = { w with naming, clock, timeline, audit }

namespace World

variable {w w' : World} {outage : Option String} {call : Call}

/-- Calls that enter nothing into the books are answered as if the books worked. -/
theorem answerAmid_eq (h : call.entersBooks = false) :
  answerAmid outage call w = answer call w
  := by
  cases outage with
  | none =>
    cases call with
    | _ => rfl
  | some reason =>
    cases call with
    | record | log => cases h
    | _ => rfl

theorem fresh_of_constant {name : String} (h : w.naming = .constant name) (kind : Fresh) :
  w.fresh kind = name
  := by
  cases kind with
  | _ => simp [fresh, h, Naming.constant]

theorem Abridges.refl (w : World) :
  w.Abridges w
  := ⟨_, _, _, _, .refl _, .refl _, rfl⟩

/-- The time and the fresh names of either world do not matter. -/
theorem Abridges.at (h : w'.Abridges w) (clock clock' : Time.Instant) (naming naming' : Naming) :
  World.Abridges { w' with clock := clock', naming := naming' } { w with clock, naming }
  := by
  obtain ⟨-, -, timeline, audit, htimeline, haudit, rfl⟩ := h
  exact ⟨_, _, timeline, audit, htimeline, haudit, rfl⟩

/-- Worlds at the same time that give the same fresh name answer alike, if they are not asked
for what is in the books. -/
theorem Abridges.answer (h : w'.Abridges w) (hclock : w'.clock = w.clock) {name : String}
    (hnaming : w.naming = .constant name) (hnaming' : w'.naming = .constant name)
    (hlooks : call.looksIntoBooks = false) (henters : call.entersBooks = false) :
  (World.answer call w').1 = (World.answer call w).1
    ∧ (World.answer call w').2.Abridges (World.answer call w).2
  := by
  have halike := h
  obtain ⟨naming, clock, timeline, audit, htimeline, haudit, rfl⟩ := h
  cases call with
  | now => exact ⟨hclock, halike⟩
  | fresh kind =>
    refine ⟨?_, halike⟩
    apply (fresh_of_constant hnaming' kind).trans (fresh_of_constant hnaming kind).symm
  | insert a =>
    simp only [World.answer, World.insert]
    cases w.records.insert a with
    | ok later => exact ⟨rfl, _, _, timeline, audit, htimeline, haudit, rfl⟩
    | error e => exact ⟨rfl, halike⟩
  | update a expected =>
    simp only [World.answer, World.update]
    cases w.records.update a expected with
    | ok r => exact ⟨rfl, _, _, timeline, audit, htimeline, haudit, rfl⟩
    | error e => exact ⟨rfl, halike⟩
  | eventsFor | eventsForMany => cases hlooks
  | record | log => cases henters
  | _ => exact ⟨rfl, halike⟩

/-- What is entered into the books is entered into the abridged ones as well, or left out. -/
theorem Abridges.enter (h : w'.Abridges w) (henters : call.entersBooks = true)
    (outage : Option String) :
  (answerAmid outage call w').2.Abridges (World.answer call w).2
  := by
  obtain ⟨naming, clock, timeline, audit, htimeline, haudit, rfl⟩ := h
  cases call with
  | record event =>
    cases outage with
    | none => exact ⟨_, _, _, audit, htimeline.append (.refl [event]), haudit, rfl⟩
    | some reason =>
      exact ⟨_, _, _, audit, htimeline.trans (List.sublist_append_left ..), haudit, rfl⟩
  | log entry =>
    cases outage with
    | none => exact ⟨_, _, timeline, _, htimeline, haudit.append (.refl [entry]), rfl⟩
    | some reason =>
      exact ⟨_, _, timeline, _, htimeline, haudit.trans (List.sublist_append_left ..), rfl⟩
  | _ => cases henters

end World

theorem Call.entersBooks_of_isLook {call : Call} (h : call.isLook = true) :
  call.entersBooks = false
  := by
  cases call with
  | record | log => cases h
  | _ => rfl

theorem Request.isLook_of_showsTimeline {r : Request} (h : r.showsTimeline = true) :
  r.isLook = true
  := by
  cases r with
  | mutation | batch => cases h
  | _ => rfl

/-! ### Runs -/

/-- Something that happens where the books may be out of order: a client takes a turn, at a time
and with a fresh name, or the directory and the registry of questions change. -/
inductive Incident (ι : Type) where
  | turn (client : ι) (clock : Time.Instant) (name : String) (outage : Option String)
  | refit (directory : Directory) (questions : Registry)

/-- What happens where the books work. -/
def Incident.move {ι : Type} : Incident ι → Move ι
  | turn client clock name _ => .turn ⟨client, clock, .constant name⟩
  | refit directory questions => .refit directory questions

namespace System

variable {ι : Type} {ρ : ι → Type}

section Turn

variable [DecidableEq ι]

/-- The answer to a call of the client whose turn it is, where the books may be out of order. -/
def answerAmid (outage : Option String) (s : System ρ) (t : Turn ι) (call : Call)
    (next : call.Answer → Program (Except Refusal (ρ t.client))) : System ρ :=
  let (answer, world) := World.answerAmid outage call (s.worldAt t)
  let sight := (s.clients t.client).sight
  { world
    clients := Function.update s.clients t.client ⟨next answer, sight.after call answer⟩
    journal := s.journal ++
      ((call.written answer).map fun (kind, record) => ⟨t.client, sight, kind, record⟩).toList }

/-- A client takes a turn where the books may be out of order. -/
def turnAmid (outage : Option String) (s : System ρ) (t : Turn ι) : System ρ :=
  match (s.clients t.client).program with
  | .done _ => s
  | .ask call next => s.answerAmid outage t call next

/-- Something happens where the books may be out of order. -/
def meet (s : System ρ) : Incident ι → System ρ
  | .turn client clock name outage => s.turnAmid outage ⟨client, clock, .constant name⟩
  | .refit directory questions => s.move (.refit directory questions)

/-- Some incidents, one after the other. -/
def runAmid (s : System ρ) (incidents : List (Incident ι)) : System ρ :=
  incidents.foldl meet s

variable {s : System ρ} {t : Turn ι} {outage : Option String}

theorem answerAmid_clients_self {call : Call}
    {next : call.Answer → Program (Except Refusal (ρ t.client))} :
  (s.answerAmid outage t call next).clients t.client
    = ⟨next (World.answerAmid outage call (s.worldAt t)).1,
        (s.clients t.client).sight.after call (World.answerAmid outage call (s.worldAt t)).1⟩
  := Function.update_self ..

theorem answerAmid_clients_of_ne {call : Call}
    {next : call.Answer → Program (Except Refusal (ρ t.client))} {i : ι} (h : i ≠ t.client) :
  (s.answerAmid outage t call next).clients i = s.clients i
  := Function.update_of_ne h ..

/-- A turn that enters nothing into the books is one where the books work. -/
theorem turnAmid_eq (h : ∀ call next, (s.clients t.client).program = .ask call next →
    call.entersBooks = false) :
  s.turnAmid outage t = s.turn t
  := by
  rw [turnAmid, turn]
  cases hprogram : (s.clients t.client).program with
  | done result => rfl
  | ask call next =>
    simp only
    rw [answerAmid, World.answerAmid_eq (h call next hprogram)]
    rfl

/-- A client that only looks takes its turn as if the books worked. -/
theorem turnAmid_of_looks (h : (s.clients t.client).Obeys looking) :
  s.turnAmid outage t = s.turn t
  := by
  apply turnAmid_eq
  intro call next hprogram
  rw [Client.Obeys, hprogram] at h
  apply Call.entersBooks_of_isLook h.1

/-- A turn of a client that only looks changes nothing but the time. -/
theorem world_turn_of_looks (h : (s.clients t.client).Obeys looking) :
  (s.turn t).world = s.world ∨ (s.turn t).world = s.worldAt t
  := by
  apply turn_induction (P := fun s' => s'.world = s.world ∨ s'.world = s.worldAt t) (.inl rfl)
  intro call next hprogram
  rw [Client.Obeys, hprogram] at h
  right
  rw [answer_world, Call.answer_snd_of_isLook h.1]

end Turn

/-! ### Runs that lie beside each other -/

variable {policy : Policy} {requests : ι → Request} {s s' : System fun i => (requests i).Reply}

/-- That a run where the books may be out of order lies beside one where they work: its world
abridges the other one, clients that show timelines only look, and all others are in the same
place and do not heed the books. -/
structure Beside (s' s : System fun i => (requests i).Reply) : Prop where
  world : s'.world.Abridges s.world
  shows : ∀ i, (requests i).showsTimeline = true →
    (s'.clients i).Obeys looking ∧ (s.clients i).Obeys looking
  heedless : ∀ i, (requests i).showsTimeline = false →
    (s'.clients i).program = (s.clients i).program ∧ (s.clients i).program.Heedless

theorem beside_start (policy : Policy) (requests : ι → Request) (w : Rehoming.World) :
  Beside (ofRequests policy requests w) (ofRequests policy requests w)
  := by
  constructor
  case world => apply World.Abridges.refl
  case shows =>
    intro i hshows
    have hlooks : ((requests i).service policy).run.Obeys looking (fun _ _ => True) {} := by
      apply Service.obeys_any_iff.mp
      apply Request.looks
      apply Request.isLook_of_showsTimeline hshows
    exact ⟨hlooks, hlooks⟩
  case heedless =>
    intro i hshows
    use rfl
    apply Request.heedless hshows

variable [DecidableEq ι]

/-- A turn of a client that shows timelines leaves the runs beside each other. -/
theorem Beside.turn_shows (h : Beside s' s) {t : Turn ι} (outage : Option String)
    (hshows : (requests t.client).showsTimeline = true) :
  Beside (s'.turnAmid outage t) (s.turn t)
  := by
  obtain ⟨hlooks', hlooks⟩ := h.shows t.client hshows
  rw [turnAmid_of_looks hlooks']
  constructor
  case world =>
    obtain hworld | hworld := world_turn_of_looks hlooks
    all_goals obtain hworld' | hworld' := world_turn_of_looks hlooks'
    all_goals rw [hworld, hworld']
    all_goals apply h.world.at
  case shows =>
    intro i hi
    obtain ⟨hi', hi⟩ := h.shows i hi
    exact ⟨client_obeys_turn hi' trivial, client_obeys_turn hi trivial⟩
  case heedless =>
    intro i hi
    have hother : i ≠ t.client :=
      ne_of_apply_ne (fun i => (requests i).showsTimeline) (by simp [hi, hshows])
    rw [turn_clients_of_ne hother, turn_clients_of_ne hother]
    apply h.heedless i hi

/-- A turn of a client that does not heed the books leaves the runs beside each other. -/
theorem Beside.turn_heedless (h : Beside s' s) {t : Turn ι} {name : String}
    (hnaming : t.naming = .constant name) (outage : Option String)
    (hshows : (requests t.client).showsTimeline = false) :
  Beside (s'.turnAmid outage t) (s.turn t)
  := by
  obtain ⟨hsame, hheedless⟩ := h.heedless t.client hshows
  rw [turnAmid, turn, hsame]
  cases hprogram : (s.clients t.client).program with
  | done result => apply h
  | ask call next =>
    rw [hprogram] at hheedless
    obtain ⟨hlooks, hunheard, hnext⟩ := hheedless
    have hworld : (s'.worldAt t).Abridges (s.worldAt t) := by apply h.world.at
    have hanswer : next (World.answerAmid outage call (s'.worldAt t)).1
          = next (World.answer call (s.worldAt t)).1
        ∧ (World.answerAmid outage call (s'.worldAt t)).2.Abridges
            (World.answer call (s.worldAt t)).2 := by
      cases henters : call.entersBooks with
      | true => exact ⟨hunheard henters _ _, hworld.enter henters outage⟩
      | false =>
        obtain ⟨hsame, hworld⟩ := hworld.answer rfl hnaming hnaming hlooks henters
        rw [World.answerAmid_eq henters, hsame]
        exact ⟨rfl, hworld⟩
    constructor
    case world => apply hanswer.2
    case shows =>
      intro i hi
      have hother : i ≠ t.client :=
        ne_of_apply_ne (fun i => (requests i).showsTimeline) (by simp [hi, hshows])
      rw [answerAmid_clients_of_ne hother, answer_clients_of_ne hother]
      apply h.shows i hi
    case heedless =>
      intro i hi
      by_cases hclient : i = t.client
      · subst hclient
        rw [answerAmid_clients_self, answer_clients_self]
        exact ⟨hanswer.1, hnext _⟩
      · rw [answerAmid_clients_of_ne hclient, answer_clients_of_ne hclient]
        apply h.heedless i hi

theorem Beside.meet (h : Beside s' s) (incident : Incident ι) :
  Beside (s'.meet incident) (s.move incident.move)
  := by
  cases incident with
  | refit directory questions =>
    refine ⟨?_, h.shows, h.heedless⟩
    obtain ⟨naming, clock, timeline, audit, htimeline, haudit, hworld⟩ := h.world
    refine ⟨naming, clock, timeline, audit, htimeline, haudit, ?_⟩
    change { s'.world with directory, questions } = _
    rw [hworld]
    rfl
  | turn client clock name outage =>
    cases hshows : (requests client).showsTimeline with
    | true => apply h.turn_shows outage hshows
    | false => apply h.turn_heedless rfl outage hshows

theorem Beside.run (h : Beside s' s) (incidents : List (Incident ι)) :
  Beside (s'.runAmid incidents) (s.run (incidents.map Incident.move))
  := by
  induction incidents generalizing s' s with
  | nil => apply h
  | cons incident rest ih => apply ih (h.meet incident)

/-- Whatever clients ask for, in whatever order they take their turns, whatever time it is and
whatever fresh names they are given: if entries into the timeline and the audit log fail now and
then, the same records are stored at all times as if none failed, and every client that does not
ask for timelines is in the same place of its operation and has been given the same answer.  Of
the events and the entries some are left out, and no others are there. -/
theorem outages_unnoticed (policy : Policy) (requests : ι → Request) (w : Rehoming.World)
    (incidents : List (Incident ι)) :
  let s := ofRequests policy requests w
  let troubled := s.runAmid incidents
  let smooth := s.run (incidents.map Incident.move)
  troubled.world.records = smooth.world.records
  ∧ (∀ i, (requests i).showsTimeline = false →
      (troubled.clients i).program = (smooth.clients i).program)
  ∧ troubled.world.timeline.Sublist smooth.world.timeline
  ∧ troubled.world.audit.Sublist smooth.world.audit
  := by
  intro s troubled smooth
  have hbeside : Beside troubled smooth := (beside_start policy requests w).run incidents
  obtain ⟨naming, clock, timeline, audit, htimeline, haudit, hworld⟩ := hbeside.world
  rw [hworld]
  refine ⟨rfl, ?_, htimeline, haudit⟩
  intro i hshows
  apply (hbeside.heedless i hshows).1

/-- An event that is lost is missing from the timeline, and nowhere else. -/
example :
  let troubled := (ofRequests Demo.policy (fun _ : Unit => Demo.adoption 0) Demo.informalWorld).runAmid
    ((List.range 11).map fun k =>
      .turn () (.ofSeconds k 0) ("name-" ++ toString k) (if k = 8 then some "timeline down" else none))
  troubled.world.records.map (·.applicationId) = [⟨"name-5"⟩] ∧ troubled.world.timeline = []
    ∧ troubled.world.audit.map (·.entityId) = ["name-5"]
  := by decide +kernel

end System

end Rehoming
