import Rehoming.Proofs.Sharing.Dialogue
import Rehoming.Proofs.Sharing.Requests
import Rehoming.Proofs.Sharing.Serial
/-!
# Late writes are earned

An operation that gives up because its writes come too late has been overtaken by others: once
for its first attempt, and once more for every retry.  Each attempt that comes too late is
charged to a write of the same record that others have made since the attempt has looked the
record up, so that no write is charged twice.
-/

namespace Rehoming

/-- A write comes too late only if the stored record does not have the version expected. -/
theorem World.version_ne_of_stale {w : World} {a stored : Application}
    {expected expected' current : Nat}
    (hlate : (World.answer (.update a expected) w).1 = .error (.staleWrite expected' current))
    (hstored : w.records.find? a.applicationId = some stored) :
  stored.version ≠ expected
  := by
  intro hversion
  rw [answer_update_ok (Records.update_eq_ok_iff.mpr ⟨stored, hstored, hversion, rfl, rfl⟩)] at hlate
  cases hlate

/-- What tries has not ended with a write that came too late. -/
theorem Program.Tries.ne_stale {β : Type} {id : ApplicationId} {left : Nat}
    {found : Option Application} {p : Program (Except Refusal β)} (h : p.Tries id left found)
    (expected current : Nat) :
  p ≠ .done (.error (.store (.staleWrite expected current)))
  := by
  rintro rfl
  cases h with
  | settled hsettles => exact hsettles.ne_stale expected current rfl

/-- What has returned asks nothing more. -/
theorem Program.Reaches.eq_nil_of_done {α : Type} {a : α} {exchanges : List Exchange}
    {rest : Program α} (h : (Program.done a).Reaches exchanges rest) :
  exchanges = []
  := by
  cases h
  rfl

namespace System

variable {ι : Type} {ρ : ι → Type} [DecidableEq ι]

/-- That before the last update that a client makes in some moves, others have written over
the record of a name at least a number of times. -/
def Overtaken (s : System ρ) (i : ι) (id : ApplicationId) (count : Nat) (moves : List (Move ι)) :
    Prop :=
  ∃ between m after x, moves = between ++ m :: after
    ∧ (s.run between).exchange? i m = some x ∧ x.isUpdate = true
    ∧ (∀ y ∈ ((s.run between).move m).dialogue i after, y.isUpdate = false)
    ∧ count ≤ s.rivals i id between

/-- That between the first time that a client looks up a record in some moves, and the last
update that it makes in them, others have written over the record at least a number of times. -/
def Contested (s : System ρ) (i : ι) (id : ApplicationId) (count : Nat) (moves : List (Move ι)) :
    Prop :=
  ∃ before m later x, moves = before ++ m :: later
    ∧ (∀ y ∈ s.dialogue i before, y.isLookup = false)
    ∧ (s.run before).exchange? i m = some x ∧ x.call = .fetch id false
    ∧ ((s.run before).move m).Overtaken i id count later

variable {s : System ρ} {i : ι} {id : ApplicationId} {count count' : Nat} {m : Move ι}
  {moves rest : List (Move ι)}

/-! ### Windows of a run -/

theorem Overtaken.mono (h : s.Overtaken i id count moves) (hle : count' ≤ count) :
  s.Overtaken i id count' moves
  := by
  obtain ⟨between, m, after, x, hmoves, hasked, hupdate, hlast, hcount⟩ := h
  exact ⟨between, m, after, x, hmoves, hasked, hupdate, hlast, Nat.le_trans hle hcount⟩

theorem Overtaken.cons (h : (s.move m).Overtaken i id count rest) :
  s.Overtaken i id (s.rivals i id [m] + count) (m :: rest)
  := by
  obtain ⟨between, m', after, x, rfl, hasked, hupdate, hlast, hcount⟩ := h
  refine ⟨m :: between, m', after, x, rfl, hasked, hupdate, hlast, ?_⟩
  rw [rivals_cons m between]
  apply Nat.add_le_add_left hcount

theorem Overtaken.le_rivals (h : s.Overtaken i id count moves) :
  count ≤ s.rivals i id moves
  := by
  obtain ⟨between, m, after, x, rfl, -, -, -, hcount⟩ := h
  rw [rivals_append]
  omega

theorem Contested.cons (h : (s.move m).Contested i id count rest)
    (haside : ∀ x, s.exchange? i m = some x → x.isLookup = false) :
  s.Contested i id count (m :: rest)
  := by
  obtain ⟨before, m', later, x, rfl, hfirst, hasked, hlookup, hovertaken⟩ := h
  refine ⟨m :: before, m', later, x, rfl, ?_, hasked, hlookup, hovertaken⟩
  intro y hy
  rw [dialogue] at hy
  obtain hy | hy := List.mem_append.mp hy
  · exact haside y (Option.mem_toList.mp hy)
  · exact hfirst y hy

/-- Whoever looks up a record before it is overtaken is overtaken. -/
theorem Contested.overtaken (h : s.Contested i id count moves) :
  s.Overtaken i id count moves
  := by
  obtain ⟨before, m, later, x, rfl, -, -, -, hovertaken⟩ := h
  induction before generalizing s with
  | nil => exact hovertaken.cons.mono (Nat.le_add_left ..)
  | cons m' before ih => exact (ih (s := s.move m') hovertaken).cons.mono (Nat.le_add_left ..)

/-! ### Charging the attempts -/

/-- What a client is owed that gives up after some moves, with a number of retries left at
first.  If it has found a record, the version of the stored one need not be the one found any
more, and a debt of the writes that have changed it so far is taken off. -/
def Charged (s : System ρ) (i : ι) (id : ApplicationId) (left : Nat) (moves : List (Move ι)) :
    (found : Option Application) → Prop
  | none => s.Contested i id (left + 1) moves
  | some before => ∀ stored debt, s.world.records.find? id = some stored →
      stored.version = before.version ∨ 1 ≤ debt →
      s.Overtaken i id (left + 1 - debt) moves

/-- A move in which the client neither looks up nor updates a record changes nothing in what
it is owed: a write that others make in it goes from the debt to the count. -/
theorem Charged.cons {left : Nat} {found : Option Application}
    (h : (s.move m).Charged i id left rest found)
    (haside : ∀ x, s.exchange? i m = some x → x.isLookup = false ∧ x.isUpdate = false) :
  s.Charged i id left (m :: rest) found
  := by
  cases found with
  | none => exact Contested.cons h fun x hx => (haside x hx).1
  | some before =>
    intro stored debt hstored hversion
    obtain ⟨later, hlater, hsame⟩ := version_move hstored fun x hx => (haside x hx).2
    have hdebt : later.version = before.version ∨ 1 ≤ debt + s.rivals i id [m] := by omega
    apply (h later (debt + s.rivals i id [m]) hlater hdebt).cons.mono
    omega

/-- A client that finds a record is owed what it is owed from then on. -/
theorem Charged.fetch {left : Nat} {before : Application} {w : Rehoming.World}
    (h : (s.move m).Charged i id left rest (some before))
    (hasked : s.exchange? i m = some ⟨.fetch id false, w⟩)
    (hstored : (s.move m).world.records.find? id = some before) :
  s.Charged i id left (m :: rest) none
  := by
  refine ⟨[], m, rest, _, rfl, ?_, hasked, rfl, h before 0 hstored (.inl rfl)⟩
  rintro y ⟨⟩

section Late

variable {a before : Application} {w : Rehoming.World} {expected current : Nat}
  (hname : a.applicationId = id) (hrecords : w.records = s.world.records)
  (hlate : (World.answer (.update a before.version) w).1 = .error (.staleWrite expected current))

include hname hrecords hlate

omit [DecidableEq ι] in
/-- When a write comes too late, somebody else has written over the record. -/
theorem debt_of_late {stored : Application} {debt : Nat}
    (hstored : s.world.records.find? id = some stored)
    (hversion : stored.version = before.version ∨ 1 ≤ debt) :
  1 ≤ debt
  := by
  rw [← hname, ← hrecords] at hstored
  have hother := World.version_ne_of_stale hlate hstored
  omega

/-- The write that ends the last attempt pays for it. -/
theorem Charged.last (hasked : s.exchange? i m = some ⟨.update a before.version, w⟩)
    (hsilent : (s.move m).dialogue i rest = []) :
  s.Charged i id 0 (m :: rest) (some before)
  := by
  intro stored debt hstored hversion
  have hdebt := debt_of_late hname hrecords hlate hstored hversion
  refine ⟨[], m, rest, _, rfl, hasked, rfl, ?_, by omega⟩
  intro y hy
  change y ∈ (s.move m).dialogue i rest at hy
  rw [hsilent] at hy
  cases hy

/-- The write that ends an attempt pays for it; the later attempts are paid for by later
writes. -/
theorem Charged.again {more : Nat} (h : (s.move m).Charged i id more rest none) :
  s.Charged i id (more + 1) (m :: rest) (some before)
  := by
  intro stored debt hstored hversion
  have hdebt := debt_of_late hname hrecords hlate hstored hversion
  apply (Contested.overtaken h).cons.mono
  omega

end Late

variable {β : Type} {left : Nat} {found : Option Application} {p : Program (Except Refusal β)}
  {f : Except Refusal β → Program (Except Refusal (ρ i))} {expected current : Nat}

/-- A client that gives up because its writes come too late is owed a write of others for
every attempt. -/
theorem charged_of_tries (htries : p.Tries id left found)
    (hprogram : (s.clients i).program = p.bind f)
    (hreaches : p.Reaches (s.dialogue i moves)
      (.done (.error (.store (.staleWrite expected current))))) :
  s.Charged i id left moves found
  := by
  induction moves generalizing s p left found with
  | nil =>
    cases hreaches
    cases htries.ne_stale expected current rfl
  | cons m rest ih =>
    cases s.hears i m with
    | nothing hsilent hsame =>
      rw [dialogue_of_none hsilent] at hreaches
      apply Charged.cons (ih htries (hsame.trans hprogram) hreaches)
      simp [hsilent]
    | @answer t call next hi hasks hasked hheard hworld =>
      rw [dialogue_of_some hasked] at hreaches
      cases p with
      | done result => cases hreaches
      | ask call' next' =>
        -- The call of the client is the next one of the operation.
        rw [hasks, Program.ask_bind] at hprogram
        injection hprogram with hcall hnext
        subst hcall
        obtain rfl := eq_of_heq hnext
        obtain - | hreaches := hreaches
        change _ = (next' (World.answer call (s.worldAt t)).1).bind f at hheard
        have hcontinues := htries.continues (s.worldAt t)
        generalize next' (World.answer call (s.worldAt t)).1 = later at hheard hreaches hcontinues
        cases hcontinues with
        | aside hlookup hupdate htries =>
          apply Charged.cons (ih htries hheard hreaches)
          simp [hasked, hlookup, hupdate]
        | found hstored htries =>
          apply Charged.fetch (ih htries hheard hreaches) hasked
          rw [hworld]
          exact hstored
        | last hname hlate =>
          exact Charged.last (w := s.worldAt t) hname rfl hlate hasked hreaches.eq_nil_of_done
        | again hname hlate htries =>
          exact Charged.again (w := s.worldAt t) hname rfl hlate (ih htries hheard hreaches)
        | settled hsettles => cases (hsettles.reaches hreaches).1.ne_stale expected current rfl

/-- Whatever the other clients do, an operation updates at most once more than the policy lets
it start over, and if it gives up because its write comes too late, then others have written
over its record at least that often between its first look-up and its last update.  So it does
not give up if they write over the record no more often than it may start over.  A byte that
counts the writes that come too late never overflows. -/
theorem late_writes_earned (policy : Policy) (m : Mutation) (htarget : m.target = some id)
    {f : Except Refusal m.Reply → Program (Except Refusal (ρ i))}
    (hprogram : (s.clients i).program = (m.service policy).run.bind f)
    {left : Program (Except Refusal m.Reply)}
    (hreaches : (m.service policy).run.Reaches (s.dialogue i moves) left) :
  (s.dialogue i moves).countP Exchange.isUpdate ≤ policy.transitionRetries + 1
  ∧ (∀ expected current, left = .done (.error (.store (.staleWrite expected current))) →
      s.Contested i id (policy.transitionRetries + 1) moves)
  ∧ (s.rivals i id moves ≤ policy.transitionRetries →
      ∀ expected current, left ≠ .done (.error (.store (.staleWrite expected current))))
  ∧ ∀ {α : Type} (change : Service.Change α) overflow (limit : UInt8),
      Service.commitCounting policy id change overflow limit 0
        = Service.commit policy id change limit.toNat
  := by
  have hcommits : (m.service policy).run.Commits (fun _ => True) policy (fun _ => True) id
      fun stored => m.reply stored := m.commits htarget fun _ _ => trivial
  have htries := hcommits.tries
  have hcontested : ∀ expected current,
      left = .done (.error (.store (.staleWrite expected current))) →
      s.Contested i id (policy.transitionRetries + 1) moves := by
    rintro expected current rfl
    exact charged_of_tries htries hprogram hreaches
  refine ⟨htries.countP_isUpdate_le hreaches, hcontested, ?_, ?_⟩
  · intro hfew expected current hgave
    have hmany := (hcontested expected current hgave).overtaken.le_rivals
    omega
  · intro α change overflow limit
    apply Service.commitCounting_eq

end System

/-! ### An upload that is overtaken -/

namespace Demo

/-- The limits under which nobody may start over. -/
def hasty : Policy :=
  { transitionRetries := 0 }

/-- The application is submitted; one upload looks it up, the other one writes it, and the
first one goes on. -/
def overtaking : List (Move (Fin 3)) :=
  turns 0 11 0 ++ turns 1 2 20 ++ turns 2 8 30 ++ turns 1 3 40

end Demo

/-- The upload that is overtaken once gives up if it may not start over. -/
theorem System.hasty_upload_contested :
  let s : System fun i => (Demo.uploads i).Reply :=
    .start { Demo.informalWorld with records := [] } fun i => (Demo.uploads i).service Demo.hasty
  ((s.run Demo.overtaking).clients 1).program = .done (.error (.store (.staleWrite 0 1)))
  ∧ (s.dialogue 1 Demo.overtaking).countP Exchange.isUpdate ≤ 1
  ∧ s.Contested 1 ⟨"app-1"⟩ 1 Demo.overtaking
  := by
  intro s
  have hrefusal : (match ((s.run Demo.overtaking).clients 1).program with
      | .done (.error refusal) => some refusal
      | _ => none) = some (.store (.staleWrite 0 1)) := by decide +kernel
  have hdone : ((s.run Demo.overtaking).clients 1).program
      = .done (.error (.store (.staleWrite 0 1))) := by
    revert hrefusal
    cases ((s.run Demo.overtaking).clients 1).program with
    | done result =>
      cases result with
      | ok stored => rintro ⟨⟩
      | error refusal =>
        intro hrefusal
        rw [Option.some.inj hrefusal]
    | ask call next => rintro ⟨⟩
  obtain ⟨hcount, hcontested, -⟩ := late_writes_earned (s := s) (i := 1) Demo.hasty (Demo.uploads 1) rfl
    (Program.bind_done _).symm (s.reaches_run 1 Demo.overtaking)
  exact ⟨hdone, hcount, hcontested 0 1 hdone⟩

end Rehoming
