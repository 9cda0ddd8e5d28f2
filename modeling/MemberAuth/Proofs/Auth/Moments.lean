import MemberAuth.Proofs.Auth.Decision

/-!
# The moments of a run

A run is observed after each of its steps, and also while the verifier is being asked, between the
steps that happen meanwhile. What every call of the cache and both steps of every decision preserve
holds at each of these moments, however deep decisions are nested.
-/
namespace MemberAuth.Auth

open Gate (Act)

/-- A moment of a run from `s`: what has been done at the gate, how many decisions are waiting for
the verifier, and the state. -/
inductive Moment (v : Verifier) : State → List Step → List (Nat × Act) → Nat → State → Prop
  | now (s : State) (steps : List Step) : Moment v s steps [] 0 s
  | later {s t : State} {step : Step} {rest : List Step} {acts : List (Nat × Act)} {waiting : Nat}
    (h : Moment v (step.runWith v s).1 rest acts waiting t) :
    Moment v s (step :: rest) (step.trace v s ++ acts) waiting t
  | within {s t : State} {loginId password : String} {during rest : List Step} {gate : Gate}
    {epoch : Nat} {acts : List (Nat × Act)} {waiting : Nat}
    (opened : s.gate.openRequest s.now loginId password = (gate, .pending epoch))
    (h : Moment v (s.asking loginId) during acts waiting t) :
    Moment v s (.authenticate loginId password during :: rest)
      ((s.now, .opens loginId password) :: acts) (waiting + 1) t

variable {v : Verifier} {s t : State} {steps : List Step} {acts : List (Nat × Act)} {waiting : Nat}

/-- The end of a run is one of its moments. -/
theorem Moment.last (v : Verifier) (s : State) (steps : List Step) :
    Moment v s steps (Step.traceAll v s steps) 0 (Step.runAllWith v s steps).1 := by
  induction steps generalizing s with
  | nil => exact .now s []
  | cons step rest ih => exact .later (ih _)

/-- The acts lead to the gate of the moment, and the verifier was asked once for each decision that
is closed or waiting. -/
theorem Moment.leads (moment : Moment v s steps acts waiting t) :
    t.gate = s.gate.after acts ∧ t.calls = s.calls + acts.countP (·.2.isAnswer) + waiting := by
  induction moment with
  | now s steps => exact ⟨rfl, rfl⟩
  | @later s t step rest acts waiting _ ih =>
    obtain ⟨gate, calls⟩ := ih
    obtain ⟨gate', calls'⟩ := Step.leads_runWith v s step
    constructor
    · rw [gate, gate', Gate.after_append]
    · rw [calls, calls', List.countP_append, Nat.add_assoc s.calls]
  | @within s t loginId password during rest gate epoch acts waiting opened _ ih =>
    obtain ⟨gate', calls⟩ := ih
    obtain ⟨_, _, missed, _⟩ := Gate.openRequest_pending opened
    constructor
    · rw [gate', Gate.after, Gate.act, opened, missed]
      rfl
    · have asked : (s.asking loginId).calls = s.calls + 1 := rfl
      have opening : Act.isAnswer (.opens loginId password) = false := rfl
      rw [calls, asked, List.countP_cons_of_neg (by simp [opening])]
      omega

mutual

/-- Whether a step is of some kind, or a decision during which all steps are. -/
def Step.only (kind : Step → Bool) : Step → Bool
  | .authenticate _ _ during => Step.onlyAll kind during
  | step => kind step

def Step.onlyAll (kind : Step → Bool) : List Step → Bool
  | [] => true
  | step :: rest => step.only kind && Step.onlyAll kind rest

end

theorem Step.only_of_simple {kind : Step → Bool} {step : Step} (simple : step.isDecision = false)
    (h : step.only kind = true) : kind step = true := by
  cases step with
  | authenticate loginId password during => cases simple
  | _ => exact h

mutual

theorem Step.only_true (step : Step) : step.only (fun _ => true) = true := by
  cases step with
  | authenticate loginId password during => exact Step.onlyAll_true during
  | _ => rfl

theorem Step.onlyAll_true (steps : List Step) : Step.onlyAll (fun _ => true) steps = true := by
  cases steps with
  | nil => rfl
  | cons step rest => rw [Step.onlyAll, Step.only_true step, Step.onlyAll_true rest, Bool.and_self]

end

theorem Step.runWith_of_simple (v : Verifier) (s : State) {step : Step}
    (simple : step.isDecision = false) : step.runWith v s = step.run s := by
  cases step with
  | authenticate loginId password during => cases simple
  | _ => rfl

/-- A property of states that steps of some kind preserve, and both steps of decisions. -/
structure Invariant (kind : Step → Bool) (holds : State → Prop) : Prop where
  run : ∀ {s step}, step.isDecision = false → kind step = true → holds s → holds (step.run s).1
  decided : ∀ {s loginId password gate result},
    s.gate.openRequest s.now loginId password = (gate, .decided result) → holds s →
    holds { s with gate }
  asking : ∀ {s} loginId, holds s → holds (s.asking loginId)
  closed : ∀ {s} loginId password epoch verdict, holds s →
    holds { s with gate := (s.gate.closeRequest s.now loginId password epoch verdict).1 }

namespace Invariant

variable {kind : Step → Bool} {holds : State → Prop}

mutual

theorem runWith (invariant : Invariant kind holds) (v : Verifier) {s : State} {step : Step}
    (only : step.only kind = true) (h : holds s) : holds (step.runWith v s).1 := by
  by_cases simple : step.isDecision = false
  · rw [Step.runWith_of_simple v s simple]
    exact invariant.run simple (Step.only_of_simple simple only) h
  · cases step with
    | authenticate loginId password during =>
      cases opened : s.gate.openRequest s.now loginId password with
      | mk gate opening =>
        cases opening with
        | decided result =>
          rw [Step.runWith_of_decided opened]
          exact invariant.decided opened h
        | pending epoch =>
          rw [Step.runWith_of_pending opened rfl]
          exact invariant.closed _ _ _ _
            (runAllWith invariant v only (invariant.asking loginId h))
    | _ => exact absurd rfl simple

theorem runAllWith (invariant : Invariant kind holds) (v : Verifier) {s : State}
    {steps : List Step} (only : Step.onlyAll kind steps = true) (h : holds s) :
    holds (Step.runAllWith v s steps).1 := by
  cases steps with
  | nil => exact h
  | cons step rest =>
    rw [Step.onlyAll, Bool.and_eq_true] at only
    rw [Step.runAllWith]
    exact runAllWith invariant v only.2 (runWith invariant v only.1 h)

end

/-- What is invariant holds at every moment. -/
theorem moment (invariant : Invariant kind holds) (h : Moment v s steps acts waiting t)
    (only : Step.onlyAll kind steps = true) (start : holds s) : holds t := by
  induction h with
  | now s steps => exact start
  | later _ ih =>
    rw [Step.onlyAll, Bool.and_eq_true] at only
    exact ih only.2 (invariant.runWith v only.1 start)
  | within _ _ ih =>
    rw [Step.onlyAll, Bool.and_eq_true] at only
    exact ih only.1 (invariant.asking _ start)

end Invariant

end MemberAuth.Auth
