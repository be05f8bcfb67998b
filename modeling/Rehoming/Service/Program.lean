import Rehoming.Audit
import Rehoming.Question.Registry
import Rehoming.Search.Criteria
import Rehoming.Service.Refusal
import Rehoming.Timeline.Query
/-!
# Programs

An operation of the service is a program: it asks the world around it for something, goes on
with the answer, and in the end returns.  The world is the clock, a source of fresh names,
the store of applications, the directories, the registry of questions, the timeline and the
audit log.  What a program does is thus independent of how the world answers; `run` lets a
world with a state answer.
-/

namespace Rehoming

/-- What fresh names are for. -/
inductive Fresh where
  | application
  | document
  | event
  | entry
  deriving DecidableEq, Repr

/-- What the world can be asked for. -/
inductive Call where
  | now
  | fresh (kind : Fresh)
  | insert (a : Application)
  | update (a : Application) (expected : Nat)
  | fetch (id : ApplicationId) (includeDeleted : Bool)
  | findActive (user : UserId) (pet : PetId)
  | search (criteria : Criteria)
  | listForRescue (rescue : Option RescueId)
  | findUser (id : UserId)
  | matchingUsers (needle : String)
  | findPet (id : PetId)
  | matchingPets (needle : String)
  | findStaffRescue (id : UserId)
  | questionsForRescue (rescue : RescueId)
  | record (event : TimelineEvent)
  | eventsFor (id : ApplicationId) (query : TimelineQuery)
  | eventsForMany (ids : List ApplicationId)
  | log (entry : AuditEntry)

/-- The answers to a call. -/
def Call.Answer : Call → Type
  | .now => Time.Instant
  | .fresh _ => String
  | .insert _ => Except StoreError Application
  | .update _ _ => Except StoreError Application
  | .fetch _ _ => Except StoreError (Option Application)
  | .findActive _ _ => Except StoreError (Option Application)
  | .search _ => Except StoreError SearchPage
  | .listForRescue _ => Except StoreError (List Application)
  | .findUser _ => Except StoreError (Option UserProfile)
  | .matchingUsers _ => Except StoreError (List UserId)
  | .findPet _ => Except StoreError (Option Pet)
  | .matchingPets _ => Except StoreError (List PetId)
  | .findStaffRescue _ => Except StoreError (Option RescueId)
  | .questionsForRescue _ => Except StoreError (List Question)
  | .record _ => Except LedgerError Unit
  | .eventsFor _ _ => Except LedgerError (List TimelineEvent)
  | .eventsForMany _ => Except LedgerError (List TimelineEvent)
  | .log _ => Except LedgerError Unit

/-- A program that returns a value of some type. -/
inductive Program (α : Type) where
  | done (a : α)
  | ask (call : Call) (next : call.Answer → Program α)

namespace Program

/-- One program after another. -/
def bind {α β : Type} (p : Program α) (f : α → Program β) : Program β :=
  match p with
  | done a => f a
  | ask call next => ask call fun answer => (next answer).bind f

instance : Monad Program where
  pure := done
  bind := bind

@[simp]
theorem pure_eq {α : Type} (a : α) : (pure a : Program α) = done a := rfl

@[simp]
theorem bind_eq {α β : Type} (p : Program α) (f : α → Program β) : (p >>= f) = p.bind f := rfl

@[simp]
theorem done_bind {α β : Type} (a : α) (f : α → Program β) : (done a).bind f = f a := rfl

@[simp]
theorem ask_bind {α β : Type} (call : Call) (next : call.Answer → Program α) (f : α → Program β) :
  (ask call next).bind f = ask call fun answer => (next answer).bind f
  := rfl

/-- A world: a state, and for each call an answer and the state after it. -/
abbrev World (σ : Type) := (call : Call) → σ → call.Answer × σ

/-- The value that a program returns in a world, and the state it leaves behind. -/
def run {σ α : Type} (world : World σ) (p : Program α) (s : σ) : α × σ :=
  match p with
  | done a => (a, s)
  | ask call next =>
    let (answer, s) := world call s
    (next answer).run world s

@[simp]
theorem run_done {σ α : Type} (world : World σ) (a : α) (s : σ) : (done a).run world s = (a, s) := rfl

@[simp]
theorem run_ask {σ α : Type} (world : World σ) (call : Call) (next : call.Answer → Program α) (s : σ) :
  (ask call next).run world s = (next (world call s).1).run world (world call s).2
  := rfl

/-- A program after another runs on from where that one ends. -/
theorem run_bind {σ α β : Type} (world : World σ) (p : Program α) (f : α → Program β) (s : σ) :
  (p.bind f).run world s = (f (p.run world s).1).run world (p.run world s).2
  := by
  induction p generalizing s with
  | done a => rfl
  | ask call next ih => simp [ih]

end Program

/-- An operation of the service: a program that may be refused. -/
abbrev Service (α : Type) := ExceptT Refusal Program α

namespace Service

/-- The answer to a call. -/
def ask (call : Call) : Service call.Answer :=
  ExceptT.lift (.ask call .done)

/-- A value, or the refusal to give one. -/
def ofExcept {α : Type} : Except Refusal α → Service α
  | .ok a => pure a
  | .error e => throw e

/-- The answer of a store, or its failure. -/
def stored {α : Type} : Except StoreError α → Service α
  | .ok a => pure a
  | .error e => throw (.store e)

/-- The answer of a ledger, or its failure. -/
def kept {α : Type} : Except LedgerError α → Service α
  | .ok a => pure a
  | .error e => throw (.ledger e)

/-- A value that must be there. -/
def present {α : Type} (missing : Refusal) : Option α → Service α
  | some a => pure a
  | none => throw missing

/-- Goes on only if a condition holds. -/
def require (condition : Bool) (refusal : Refusal) : Service Unit :=
  if condition then pure () else throw refusal

/-- Goes on only if no field is refused. -/
def requireNone (fields : List FieldError) (refusal : List FieldError → Refusal) : Service Unit :=
  require fields.isEmpty (refusal fields)

end Service

end Rehoming
