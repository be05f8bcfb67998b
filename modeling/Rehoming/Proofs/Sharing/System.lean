import Rehoming.Proofs.Service.Discipline
import Mathlib.Logic.Function.Basic
/-!
# Clients that share a world

Any number of clients, each of which runs one operation of the service in the same world.
They take turns in any order, and a turn is a single call: whatever the others do happens
between the calls of a client.  In every turn the clock may show any time, and fresh names may
be found in any way.  A journal tells which writes have succeeded, in their order, and what
the writer had learnt before.
-/

namespace Rehoming

/-- A client in the middle of an operation: what is left of the operation, and what it has
learnt. -/
structure Client (α : Type) where
  program : Program (Except Refusal α)
  sight : Sight := {}

/-- A turn of a client, at a time and with a way to find names. -/
structure Turn (ι : Type) where
  client : ι
  clock : Time.Instant
  naming : Naming

/-- What may happen: a client takes a turn, or the directory and the registry of questions
change. -/
inductive Move (ι : Type) where
  | turn (t : Turn ι)
  | refit (directory : Directory) (questions : Registry)

/-- The two ways to write a record. -/
inductive WriteKind where
  | insertion
  | update
  deriving DecidableEq

/-- An entry of the journal: who has written which record, and what the writer had learnt. -/
structure Entry (ι : Type) where
  client : ι
  sight : Sight
  kind : WriteKind
  record : Application

/-- The record that a call has stored. -/
def Call.written : (call : Call) → call.Answer → Option (WriteKind × Application)
  | .insert _, .ok stored => some (.insertion, stored)
  | .update .., .ok stored => some (.update, stored)
  | _, _ => none

/-- The world that clients share, the clients, each with what it answers in the end, and the
journal. -/
structure System {ι : Type} (ρ : ι → Type) where
  world : World
  clients : (i : ι) → Client (ρ i)
  journal : List (Entry ι) := []

namespace System

variable {ι : Type} {ρ : ι → Type}

/-- Clients that have not taken a turn yet. -/
def start (w : World) (services : (i : ι) → Service (ρ i)) : System ρ where
  world := w
  clients i := { program := (services i).run }

/-- The world at a turn. -/
def worldAt (s : System ρ) (t : Turn ι) : World :=
  { s.world with clock := t.clock, naming := t.naming }

variable [DecidableEq ι]

/-- The answer to a call of the client whose turn it is. -/
def answer (s : System ρ) (t : Turn ι) (call : Call)
    (next : call.Answer → Program (Except Refusal (ρ t.client))) : System ρ :=
  let (answer, world) := World.answer call (s.worldAt t)
  let sight := (s.clients t.client).sight
  { world
    clients := Function.update s.clients t.client ⟨next answer, sight.after call answer⟩
    journal := s.journal ++
      ((call.written answer).map fun (kind, record) => ⟨t.client, sight, kind, record⟩).toList }

/-- A client takes a turn: it makes its next call, unless it has returned. -/
def turn (s : System ρ) (t : Turn ι) : System ρ :=
  match (s.clients t.client).program with
  | .done _ => s
  | .ask call next => s.answer t call next

/-- Something happens. -/
def move (s : System ρ) : Move ι → System ρ
  | .turn t => s.turn t
  | .refit directory questions => { s with world := { s.world with directory, questions } }

/-- Some moves, one after the other. -/
def run (s : System ρ) (moves : List (Move ι)) : System ρ :=
  moves.foldl move s

/-! ### What a turn leaves -/

section Answer

variable {s : System ρ} {t : Turn ι} {call : Call}
  {next : call.Answer → Program (Except Refusal (ρ t.client))}

theorem turn_eq (h : (s.clients t.client).program = .ask call next) :
  s.turn t = s.answer t call next
  := by
  rw [turn, h]

@[simp]
theorem answer_world :
  (s.answer t call next).world = (World.answer call (s.worldAt t)).2
  := rfl

@[simp]
theorem answer_clients_self :
  (s.answer t call next).clients t.client
    = ⟨next (World.answer call (s.worldAt t)).1,
        (s.clients t.client).sight.after call (World.answer call (s.worldAt t)).1⟩
  := Function.update_self ..

theorem answer_clients_of_ne {i : ι} (h : i ≠ t.client) :
  (s.answer t call next).clients i = s.clients i
  := Function.update_of_ne h ..

theorem answer_journal :
  (s.answer t call next).journal
    = s.journal ++ ((call.written (World.answer call (s.worldAt t)).1).map
        fun (kind, record) => ⟨t.client, (s.clients t.client).sight, kind, record⟩).toList
  := rfl

end Answer

/-! ### Invariants -/

variable {P : System ρ → Prop} {s : System ρ}

/-- What every one of some moves preserves holds after all of them. -/
theorem run_induction {moves : List (Move ι)} (hmove : ∀ m ∈ moves, ∀ s, P s → P (s.move m))
    (h : P s) :
  P (s.run moves)
  := by
  induction moves generalizing s with
  | nil => apply h
  | cons m rest ih =>
    apply ih
    · intro m' hm'
      apply hmove m' (List.mem_cons_of_mem m hm')
    · apply hmove m List.mem_cons_self s h

/-- What the answer to every call preserves a turn preserves. -/
theorem turn_induction {t : Turn ι} (h : P s)
    (hanswer : ∀ call next, (s.clients t.client).program = .ask call next → P (s.answer t call next)) :
  P (s.turn t)
  := by
  rw [turn]
  cases hprogram : (s.clients t.client).program with
  | done result => apply h
  | ask call next => apply hanswer call next hprogram

/-- A turn leaves the other clients as they are. -/
theorem turn_clients_of_ne {t : Turn ι} {i : ι} (h : i ≠ t.client) :
  (s.turn t).clients i = s.clients i
  := by
  apply turn_induction (P := fun s' => s'.clients i = s.clients i) rfl
  intro call next _
  apply answer_clients_of_ne h

end System

end Rehoming
