import Rehoming.Proofs.Service.Lifecycle
import Rehoming.Proofs.Sharing.Requests
/-!
# The life cycle of stored applications

If the clock never goes back, the fields of every stored application hang together as the
life cycle wants it, and its version counts the writes since its insertion.  A record is never
written at an earlier time than before: its writer has read the clock after it has found it,
and nobody has written it since.
-/

namespace Rehoming

/-- The time at which something happens, if it is a turn. -/
def Move.clock? {ι : Type} : Move ι → Option Time.Instant
  | turn t => some t.clock
  | refit .. => none

/-- That a client has read the clock, and found a record, no later than a time, and has read
the clock after the record was written. -/
structure Sight.InTime (σ : Sight) (latest : Time.Instant) : Prop where
  clock : ∀ now, σ.clock = some now → now ≤ latest
  found : ∀ id before, σ.found = some (id, some before) → before.updatedAt ≤ latest
  order : ∀ now id before, σ.clock = some now → σ.found = some (id, some before) →
    before.updatedAt ≤ now

namespace Sight

variable {σ : Sight} {latest : Time.Instant}

theorem inTime_empty (latest : Time.Instant) :
  Sight.InTime {} latest
  := by
  constructor
  all_goals simp

theorem InTime.mono {later : Time.Instant} (h : σ.InTime latest) (hle : latest ≤ later) :
  σ.InTime later
  := by
  refine ⟨?_, ?_, h.order⟩
  · intro now hnow
    exact Time.Instant.le_trans (h.clock now hnow) hle
  · intro id before hfound
    exact Time.Instant.le_trans (h.found id before hfound) hle

/-- A client stays in time in a world whose records have all been written by now. -/
theorem InTime.after (h : σ.InTime latest) (call : Call) {w : World} (hle : latest ≤ w.clock)
    (hrecords : ∀ a ∈ w.records, a.updatedAt ≤ w.clock) :
  (σ.after call (World.answer call w).1).InTime w.clock
  := by
  cases call with
  | now =>
    constructor
    case clock =>
      rintro now ⟨⟩
      apply Time.Instant.le_refl
    case found => exact (h.mono hle).found
    case order =>
      rintro now id before ⟨⟩ hfound
      exact (h.mono hle).found id before hfound
  | fetch id includeDeleted =>
    cases includeDeleted with
    | true => exact h.mono hle
    | false =>
      -- No reading of the clock outlives the look-up, so the next one cannot be earlier than
      -- the write of what has been found.
      constructor
      case clock => rintro now ⟨⟩
      case found =>
        intro id' before hfound
        obtain ⟨rfl, hfetch⟩ := Prod.mk.inj (Option.some.inj hfound)
        apply hrecords
        apply Records.mem_of_find?
        exact (Records.fetch_eq_some_iff.mp hfetch).1
      case order => rintro now id' before ⟨⟩
  | insert | update => apply inTime_empty
  | fresh | findActive =>
    obtain ⟨hclock, hfound, horder⟩ := h.mono hle
    exact ⟨hclock, hfound, horder⟩
  | _ => exact h.mono hle

end Sight

/-! ### Records and how often they have been written -/

/-- That records are in order: each is somewhere in its life cycle, has been written no later
than a time, and has the version that counts its writes. -/
structure Records.InOrder (policy : Policy) (latest : Time.Instant) (records : Records)
    (writes : ApplicationId → Nat) : Prop where
  lifecycle : ∀ a ∈ records, Lifecycle policy a
  written : ∀ a ∈ records, a.updatedAt ≤ latest
  version : ∀ a ∈ records, a.version = writes a.applicationId
  unwritten : ∀ id, records.find? id = none → writes id = 0

namespace Records

variable {policy : Policy} {latest : Time.Instant} {records later : Records}
  {writes : ApplicationId → Nat} {a before : Application}

theorem InOrder.mono {latest' : Time.Instant} (h : records.InOrder policy latest writes)
    (hle : latest ≤ latest') :
  records.InOrder policy latest' writes
  := by
  refine ⟨h.lifecycle, ?_, h.version, h.unwritten⟩
  intro a ha
  exact Time.Instant.le_trans (h.written a ha) hle

theorem InOrder.insert (h : records.InOrder policy latest writes)
    (hinsert : records.insert a = .ok later) (hlifecycle : Lifecycle policy a)
    (hwritten : a.updatedAt ≤ latest) (hversion : a.version = 0) :
  later.InOrder policy latest writes
  := by
  obtain ⟨hfree, -, rfl⟩ := insert_eq_ok_iff.mp hinsert
  constructor
  case lifecycle => simpa [or_imp, forall_and] using ⟨h.lifecycle, hlifecycle⟩
  case written => simpa [or_imp, forall_and] using ⟨h.written, hwritten⟩
  case version =>
    have hnew : a.version = writes a.applicationId := by rw [hversion, h.unwritten _ hfree]
    simpa [or_imp, forall_and] using ⟨h.version, hnew⟩
  case unwritten =>
    intro id hid
    apply h.unwritten
    rw [find?, List.find?_append] at hid
    exact (Option.or_eq_none_iff.mp hid).1

theorem InOrder.replace (h : records.InOrder policy latest writes)
    (hfound : records.find? a.applicationId = some before) (hlifecycle : Lifecycle policy a)
    (hwritten : a.updatedAt ≤ latest) (hversion : a.version = before.version + 1) :
  (records.replace a).InOrder policy latest
    (fun id => writes id + if a.applicationId = id then 1 else 0)
  := by
  constructor
  case lifecycle =>
    intro b hb
    obtain rfl | ⟨hb, -⟩ := mem_replace hb
    · exact hlifecycle
    · exact h.lifecycle b hb
  case written =>
    intro b hb
    obtain rfl | ⟨hb, -⟩ := mem_replace hb
    · exact hwritten
    · exact h.written b hb
  case version =>
    intro b hb
    obtain rfl | ⟨hb, hname⟩ := mem_replace hb
    · have hbefore := h.version before (mem_of_find? hfound)
      rw [applicationId_of_find? hfound] at hbefore
      rw [hversion, hbefore, if_pos rfl]
    · rw [h.version b hb, if_neg (Ne.symm hname), Nat.add_zero]
  case unwritten =>
    intro id hid
    rw [find?_replace] at hid
    by_cases hname : a.applicationId = id
    · subst hname
      simp [hfound] at hid
    · rw [if_neg hname] at hid
      rw [h.unwritten id hid, if_neg hname]

end Records

namespace System

variable {ι : Type} {ρ : ι → Type}

/-- How often a record has been written since its insertion. -/
def writes (s : System ρ) (id : ApplicationId) : Nat :=
  s.journal.countP fun e => e.kind = .update ∧ e.record.applicationId = id

section Writes

variable {s s' : System ρ} {e : Entry ι} {id : ApplicationId}

theorem writes_of_journal_eq (h : s'.journal = s.journal) :
  s'.writes id = s.writes id
  := by
  rw [writes, writes, h]

theorem writes_of_journal_append (h : s'.journal = s.journal ++ [e]) :
  s'.writes id = s.writes id + if e.kind = .update ∧ e.record.applicationId = id then 1 else 0
  := by
  rw [writes, writes, h, List.countP_append, List.countP_singleton]
  simp

end Writes

variable {policy : Policy} {requests : ι → Request} {latest : Time.Instant}
  {s : System fun i => (requests i).Reply} {t : Turn ι}

/-- What every run with a clock that never goes back preserves, where `latest` is the time of
the last turn. -/
structure Aging (policy : Policy) (requests : ι → Request) (latest : Time.Instant)
    (s : System fun i => (requests i).Reply) : Prop where
  orderly : Orderly policy requests s
  inTime : ∀ i, (s.clients i).sight.InTime latest
  inOrder : s.world.records.InOrder policy latest s.writes

theorem aging_start {w : Rehoming.World} (hw : w.records = []) :
  Aging policy requests latest (ofRequests policy requests w)
  := by
  constructor
  case orderly => apply orderly_start
  case inTime =>
    intro i
    apply Sight.inTime_empty
  case inOrder =>
    rw [ofRequests, start, hw]
    constructor
    case unwritten =>
      intro id _
      rfl
    all_goals rintro a ⟨⟩

variable [DecidableEq ι]

theorem Aging.inTime_turn (h : Aging policy requests latest s) (hle : latest ≤ t.clock) (i : ι) :
  ((s.turn t).clients i).sight.InTime t.clock
  := by
  cases hprogram : (s.clients t.client).program with
  | done result =>
    rw [System.turn, hprogram]
    exact (h.inTime i).mono hle
  | ask call next =>
    rw [turn_eq hprogram]
    by_cases hi : i = t.client
    · subst hi
      rw [answer_clients_self]
      apply (h.inTime t.client).after call (w := s.worldAt t) hle
      exact (h.inOrder.mono hle).written
    · rw [answer_clients_of_ne hi]
      exact (h.inTime i).mono hle

theorem Aging.inOrder_turn (h : Aging policy requests latest s) (hle : latest ≤ t.clock) :
  (s.turn t).world.records.InOrder policy t.clock (s.turn t).writes
  := by
  have hinOrder := h.inOrder.mono hle
  obtain ⟨hclock, -, horder⟩ := (h.inTime t.client).mono hle
  cases effect_turn (h.orderly.obeys t.client) h.orderly.sound with
  | stay hrecords hjournal =>
    have hwrites : (s.turn t).writes = s.writes := by
      funext id
      apply writes_of_journal_eq hjournal
    rw [hrecords, hwrites]
    exact hinOrder
  | insertion now a hnow hrule hinsert hjournal =>
    have hwrites : (s.turn t).writes = s.writes := by
      funext id
      rw [writes_of_journal_append hjournal]
      simp
    obtain ⟨submission, id, user, pet, rescue, rfl⟩ := Rule.ofAnyone_insert hrule
    rw [hwrites]
    apply hinOrder.insert hinsert
    · apply Lifecycle.application
    · exact hclock now hnow
    · rfl
  | update now before a hnow hfound hrule hname hstored hdeleted hrecords hjournal =>
    obtain ⟨user, draft, hcourse, rfl⟩ := Rule.ofAnyone_update hrule
    have hwrites : (s.turn t).writes
        = fun id => s.writes id + if draft.applicationId = id then 1 else 0 := by
      funext id
      rw [writes_of_journal_append hjournal]
      simp [Application.stamp]
    rw [hrecords, hwrites]
    apply hinOrder.replace
    · rw [← hname] at hstored
      exact hstored
    · apply Lifecycle.with_version
      apply (h.inOrder.lifecycle before (Records.mem_of_find? hstored)).amend hdeleted
        (horder now _ before hnow hfound) hcourse
    · exact hclock now hnow
    · rfl

theorem Aging.turn (h : Aging policy requests latest s) (hle : latest ≤ t.clock) :
  Aging policy requests t.clock (s.turn t)
  := ⟨h.orderly.move (.turn t), h.inTime_turn hle, h.inOrder_turn hle⟩

/-- Moves at times that never go back end with everything in order at some time. -/
theorem Aging.run {moves : List (Move ι)} (h : Aging policy requests latest s)
    (hlatest : ∀ now ∈ moves.filterMap Move.clock?, latest ≤ now)
    (hclock : (moves.filterMap Move.clock?).Pairwise (· ≤ ·)) :
  ∃ latest, Aging policy requests latest (s.run moves)
  := by
  induction moves generalizing s latest with
  | nil => exact ⟨latest, h⟩
  | cons m rest ih =>
    cases m with
    | refit directory questions =>
      apply ih _ hlatest hclock
      exact ⟨h.orderly.move (.refit directory questions), h.inTime, h.inOrder⟩
    | turn t =>
      obtain ⟨hnext, hrest⟩ := List.pairwise_cons.mp hclock
      apply ih (h.turn _) hnext hrest
      apply hlatest
      apply List.mem_cons_self

/-- From an empty store, whatever clients ask for and in whatever order they take their turns,
if the clock never goes back then every stored application is at all times as the life cycle
wants it, and its version is the number of writes of it since its insertion. -/
theorem stored_applications_lifecycle (policy : Policy) (requests : ι → Request)
    (w : Rehoming.World) (moves : List (Move ι))
    (hclock : (moves.filterMap Move.clock?).Pairwise (· ≤ ·)) :
  let s := (ofRequests policy requests { w with records := [] }).run moves
  ∀ a ∈ s.world.records, Lifecycle policy a ∧ a.version = s.writes a.applicationId
  := by
  intro s a ha
  have hfirst : ∀ now ∈ moves.filterMap Move.clock?,
      (moves.filterMap Move.clock?).headD w.clock ≤ now := by
    cases hmoves : moves.filterMap Move.clock? with
    | nil => rintro now ⟨⟩
    | cons first rest =>
      rw [hmoves] at hclock
      intro now hnow
      obtain rfl | hnow := List.mem_cons.mp hnow
      · apply Time.Instant.le_refl
      · apply (List.pairwise_cons.mp hclock).1 now hnow
  have hstart : Aging policy requests ((moves.filterMap Move.clock?).headD w.clock)
      (ofRequests policy requests { w with records := [] }) := aging_start rfl
  obtain ⟨latest, haging⟩ := hstart.run hfirst hclock
  exact ⟨haging.inOrder.lifecycle a ha, haging.inOrder.version a ha⟩

/-- The application that is approved in the small run is as the life cycle wants it. -/
theorem approved_application_lifecycle :
  (Demo.approval.filterMap Move.clock?).Pairwise (· ≤ ·)
  ∧ ∃ a ∈ (Demo.start.run Demo.approval).world.records, a.status = .approved
    ∧ Lifecycle Demo.policy a
    ∧ a.version = (Demo.start.run Demo.approval).writes a.applicationId
  := by
  have hclock : (Demo.approval.filterMap Move.clock?).Pairwise (· ≤ ·) := by decide +kernel
  have hstatus : .approved ∈ (Demo.start.run Demo.approval).world.records.map Application.status := by
    decide +kernel
  obtain ⟨a, ha, happroved⟩ := List.mem_map.mp hstatus
  use hclock, a, ha, happroved
  exact stored_applications_lifecycle Demo.policy Demo.adoption Demo.informalWorld
    Demo.approval hclock a ha

end System

end Rehoming
