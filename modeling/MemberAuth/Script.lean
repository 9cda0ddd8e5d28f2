/-!
Computations as scripts of calls: a script is either done with a value, or makes a call and goes on
with the reply. Whoever holds a script decides what a call does, and may let other scripts make
their calls in between, or stop before the end.
-/
namespace MemberAuth

inductive Script (Call : Type) (Reply : Call → Type) (α : Type) : Type
  | done (value : α)
  | call (c : Call) (next : Reply c → Script Call Reply α)

namespace Script

variable {Call : Type} {Reply : Call → Type} {α β σ : Type}

def bind : Script Call Reply α → (α → Script Call Reply β) → Script Call Reply β
  | done a, f => f a
  | call c next, f => call c fun r => (next r).bind f

instance : Monad (Script Call Reply) where
  pure := done
  bind := bind

/-- One call, whose reply is the value. -/
def ask (c : Call) : Script Call Reply (Reply c) :=
  call c done

/-- Carries out every call on a state, in order. -/
def run (perform : (c : Call) → σ → σ × Reply c) : Script Call Reply α → σ → σ × α
  | done a, s => (s, a)
  | call c next, s =>
    let (s, r) := perform c s
    (next r).run perform s

@[simp] theorem run_pure (perform : (c : Call) → σ → σ × Reply c) (a : α) (s : σ) :
    (pure a : Script Call Reply α).run perform s = (s, a) := rfl

@[simp] theorem run_ask (perform : (c : Call) → σ → σ × Reply c) (c : Call) (s : σ) :
    (ask c : Script Call Reply (Reply c)).run perform s = perform c s := rfl

theorem run_bind (perform : (c : Call) → σ → σ × Reply c) (x : Script Call Reply α)
    (f : α → Script Call Reply β) (s : σ) :
    (x >>= f).run perform s = (f (x.run perform s).2).run perform (x.run perform s).1 := by
  induction x generalizing s with
  | done a => rfl
  | call c next ih => exact ih _ _

theorem bind_pure (x : Script Call Reply α) : x >>= pure = x := by
  induction x with
  | done a => rfl
  | call c next ih => exact congrArg (call c) (funext ih)

end Script

end MemberAuth
