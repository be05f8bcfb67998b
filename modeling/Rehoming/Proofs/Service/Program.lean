import Rehoming.World.Basic
/-!
# Laws of programs

Programs are a lawful monad, an operation that asks for something first is a program that
asks for it first, and running one operation after another in a world is running the one and
then the other.
-/

namespace Rehoming

variable {α β : Type}

namespace Program

theorem bind_done (p : Program α) :
  p.bind done = p
  := by
  induction p with
  | done a => rfl
  | ask call next ih =>
    rw [ask_bind]
    congr 1
    funext answer
    apply ih

theorem bind_assoc {γ : Type} (p : Program α) (f : α → Program β) (g : β → Program γ) :
  (p.bind f).bind g = p.bind fun a => (f a).bind g
  := by
  induction p with
  | done a => rfl
  | ask call next ih =>
    rw [ask_bind, ask_bind, ask_bind]
    congr 1
    funext answer
    apply ih

instance : LawfulMonad Program :=
  LawfulMonad.mk' Program bind_done done_bind bind_assoc

/-- What every call preserves a program preserves. -/
theorem run_induction {P : Rehoming.World → Prop}
    (hanswer : ∀ call w, P w → P (World.answer call w).2) (p : Program α) {w : Rehoming.World}
    (h : P w) :
  P (p.run World.answer w).2
  := by
  induction p generalizing w with
  | done a => exact h
  | ask call next ih =>
    rw [run_ask]
    apply ih
    exact hanswer call w h

end Program

namespace Service

/-- How an operation goes on once another one has returned: a refusal ends it. -/
def onward (f : α → Service β) : Except Refusal α → Program (Except Refusal β)
  | .ok a => (f a).run
  | .error e => .done (.error e)

theorem run_bind (x : Service α) (f : α → Service β) :
  (x >>= f).run = x.run.bind (onward f)
  := by
  apply congrArg (Program.bind x.run)
  funext r
  cases r with
  | ok a => rfl
  | error e => rfl

theorem run_ask_bind (call : Call) (f : call.Answer → Service α) :
  (ask call >>= f).run = .ask call fun answer => (f answer).run
  := rfl

@[simp]
theorem stored_ok (a : α) : stored (.ok a) = pure a := rfl

@[simp]
theorem kept_ok (a : α) : kept (.ok a) = pure a := rfl

@[simp]
theorem present_some (missing : Refusal) (a : α) : present missing (some a) = pure a := rfl

end Service

end Rehoming
