import MemberAuth.Proofs.Auth.Acts
import MemberAuth.Proofs.Auth.Upkeep

/-!
# What a decision does to the cache

A decision holds a run of its own while the verifier is asked, in which decisions may be nested to
any depth. Whatever that run writes, expires or removes, the decision adds one write at its end if
the verifier confirmed the credentials and nothing was evicted meanwhile, and no write otherwise.
-/
namespace MemberAuth.Auth

open Gate (Act)

/-- Something to ask in the place of the table. It may go by everything in the state. That includes
the number of the question, so that any series of answers is given by some verifier. -/
abbrev Verifier := State → String → String → Except VerifyFailure Identity

mutual

/-- Carries out one step, with the verifier behind every decision. -/
def Step.runWith (v : Verifier) (s : State) : Step → State × Outcome
  | .authenticate loginId password during =>
    match s.gate.openRequest s.now loginId password with
    | (gate, .decided result) => ({ s with gate }, .decided result none)
    | (gate, .pending epoch) =>
      let s := { s with gate, calls := s.calls + 1 }
      let verdict := v s loginId password
      let (s, reports) := Step.runAllWith v s during
      let (gate, result) := s.gate.closeRequest s.now loginId password epoch verdict
      ({ s with gate }, .decided result (some reports))
  | step => step.run s

def Step.runAllWith (v : Verifier) (s : State) : List Step → State × List Report
  | [] => (s, [])
  | step :: rest =>
    let (s, outcome) := Step.runWith v s step
    let (last, reports) := Step.runAllWith v s rest
    (last, s.report outcome :: reports)

end

mutual

/-- What a step does at the gate, in order and at any depth, each act with its time. -/
def Step.trace (v : Verifier) (s : State) : Step → List (Nat × Act)
  | .put key identity password => [(s.now, .ask (.put key (State.credential identity password)))]
  | .fill stem first past password =>
    (List.range' first (past - first)).map fun (number : Nat) =>
      let key := stem ++ toString number
      (s.now, .ask (.put key (State.credential ⟨Int64.ofNat number, key⟩ password)))
  | .putIfUnchanged key identity password ref =>
    match s.epochOf? ref with
    | none => []
    | some epoch =>
      [(s.now, .ask (.putIfUnchanged key (State.credential identity password) epoch))]
  | .get key | .matchPassword key _ => [(s.now, .ask (.get key))]
  | .evict key => [(s.now, .ask (.evict key))]
  | .purge => [(s.now, .ask .purge)]
  | .advance duration =>
    match s.purging.lastDue? (s.now + duration) with
    | none => []
    | some due => [(due, .ask .purge)]
  | .startPurging interval => if interval = 0 then [] else [(s.now, .ask .purge)]
  | .authenticate loginId password during =>
    match s.gate.openRequest s.now loginId password with
    | (_, .decided _) => [(s.now, .opens loginId password)]
    | (gate, .pending epoch) =>
      let asking := { s with gate, calls := s.calls + 1 }
      (s.now, .opens loginId password) :: (Step.traceAll v asking during ++
        [((Step.runAllWith v asking during).1.now,
          .closes loginId password epoch (v asking loginId password))])
  | _ => []

def Step.traceAll (v : Verifier) (s : State) : List Step → List (Nat × Act)
  | [] => []
  | step :: rest => step.trace v s ++ Step.traceAll v (step.runWith v s).1 rest

end

/-- The state in which the verifier is asked. -/
def State.asking (s : State) (loginId : String) : State :=
  { s with gate := (s.gate.get s.now loginId).1.count .cacheMiss, calls := s.calls + 1 }

section Equations

variable {v : Verifier} {s : State} {gate : Gate} {epoch : Nat} {loginId password : String}
  {during : List Step}

theorem Step.runWith_of_decided {result : Except AuthFailure Identity}
    (opened : s.gate.openRequest s.now loginId password = (gate, .decided result)) :
    Step.runWith v s (.authenticate loginId password during) =
      ({ s with gate }, .decided result none) := by
  rw [Step.runWith, opened]

theorem State.asking_eq
    (opened : s.gate.openRequest s.now loginId password = (gate, .pending epoch)) :
    { s with gate, calls := s.calls + 1 } = s.asking loginId := by
  obtain ⟨_, _, rfl, _⟩ := Gate.openRequest_pending opened
  rfl

theorem Step.runWith_of_pending
    (opened : s.gate.openRequest s.now loginId password = (gate, .pending epoch)) {t : State}
    {reports : List Report} (ran : Step.runAllWith v (s.asking loginId) during = (t, reports)) :
    Step.runWith v s (.authenticate loginId password during) =
      ({ t with gate := (t.gate.closeRequest t.now loginId password epoch
          (v (s.asking loginId) loginId password)).1 },
        .decided (t.gate.closeRequest t.now loginId password epoch
          (v (s.asking loginId) loginId password)).2 (some reports)) := by
  rw [Step.runWith, opened]
  dsimp only
  rw [State.asking_eq opened, ran]

theorem Step.trace_of_decided {result : Except AuthFailure Identity}
    (opened : s.gate.openRequest s.now loginId password = (gate, .decided result)) :
    Step.trace v s (.authenticate loginId password during) =
      [(s.now, .opens loginId password)] := by
  rw [Step.trace, opened]

theorem Step.trace_of_pending
    (opened : s.gate.openRequest s.now loginId password = (gate, .pending epoch)) :
    Step.trace v s (.authenticate loginId password during) =
      (s.now, .opens loginId password) :: (Step.traceAll v (s.asking loginId) during ++
        [((Step.runAllWith v (s.asking loginId) during).1.now,
          .closes loginId password epoch (v (s.asking loginId) loginId password))]) := by
  rw [Step.trace, opened]
  dsimp only
  rw [State.asking_eq opened]

end Equations

mutual

/-- The table is one of the verifiers. -/
theorem Step.runWith_verdict (s : State) (step : Step) :
    step.runWith State.verdict s = step.run s := by
  cases step with
  | authenticate loginId password during =>
    rw [Step.runWith, Step.run]
    rcases s.gate.openRequest s.now loginId password with ⟨gate, result | epoch⟩
    · rfl
    · dsimp only
      rw [Step.runAllWith_verdict _ during]
  | _ => rfl

theorem Step.runAllWith_verdict (s : State) (steps : List Step) :
    Step.runAllWith State.verdict s steps = Step.runAll s steps := by
  cases steps with
  | nil => rfl
  | cons step rest =>
    rw [Step.runAllWith, Step.runAll, Step.runWith_verdict s step]
    dsimp only
    rw [Step.runAllWith_verdict _ rest]

end

/-- The acts lead from the gate of one state to that of the other, and the verifier was asked once
for each decision that they close. -/
structure State.Leads (s : State) (acts : List (Nat × Act)) (t : State) : Prop where
  gate : t.gate = s.gate.after acts
  calls : t.calls = s.calls + acts.countP (·.2.isAnswer)

namespace State.Leads

variable {s t u : State} {acts rest : List (Nat × Act)}

theorem trans (first : s.Leads acts t) (later : t.Leads rest u) : s.Leads (acts ++ rest) u := by
  constructor
  · rw [Gate.after_append, ← first.gate, later.gate]
  · rw [List.countP_append, later.calls, first.calls, Nat.add_assoc]

theorem fill (s : State) (stem : String) (first past : Nat) (password : String) (v : Verifier) :
    s.Leads (Step.trace v s (.fill stem first past password)) (s.fill stem first past password) := by
  rw [Step.trace, State.fill]
  generalize List.range' first (past - first) = numbers
  induction numbers generalizing s with
  | nil => exact ⟨rfl, rfl⟩
  | cons number rest ih =>
    have written : s.Leads [(s.now, .ask (.put (stem ++ toString number)
        (State.credential ⟨Int64.ofNat number, stem ++ toString number⟩ password)))]
        (s.put (stem ++ toString number) ⟨Int64.ofNat number, stem ++ toString number⟩ password) :=
      ⟨rfl, rfl⟩
    exact written.trans (ih _)

theorem advance (s : State) (duration : Nat) (v : Verifier) :
    s.Leads (Step.trace v s (.advance duration)) (s.advance duration) := by
  rw [Step.trace, State.advance]
  cases s.purging.lastDue? (s.now + duration) with
  | none => exact ⟨rfl, rfl⟩
  | some due => exact ⟨rfl, rfl⟩

theorem startPurging (s : State) (interval : Nat) (v : Verifier) :
    s.Leads (Step.trace v s (.startPurging interval)) (s.startPurging interval) := by
  rw [Step.trace, State.startPurging]
  split
  · exact ⟨rfl, rfl⟩
  · exact ⟨rfl, rfl⟩

theorem putIfUnchanged (s : State) (key : String) (identity : Identity) (password : String)
    (ref : EpochRef) (v : Verifier) :
    s.Leads (Step.trace v s (.putIfUnchanged key identity password ref))
      (Step.run s (.putIfUnchanged key identity password ref)).1 := by
  rw [Step.trace, Step.run]
  cases s.epochOf? ref with
  | none => exact ⟨rfl, rfl⟩
  | some epoch => exact ⟨rfl, rfl⟩

end State.Leads

mutual

/-- The trace tells what a step did at the gate. -/
theorem Step.leads_runWith (v : Verifier) (s : State) (step : Step) :
    s.Leads (step.trace v s) (step.runWith v s).1 := by
  cases step with
  | fill stem first past password => exact .fill s stem first past password v
  | putIfUnchanged key identity password ref => exact .putIfUnchanged s key identity password ref v
  | advance duration => exact .advance s duration v
  | startPurging interval => exact .startPurging s interval v
  | authenticate loginId password during =>
    cases opened : s.gate.openRequest s.now loginId password with
    | mk gate opening =>
      cases opening with
      | decided result =>
        rw [Step.trace_of_decided opened, Step.runWith_of_decided opened]
        exact ⟨congrArg Prod.fst opened.symm, rfl⟩
      | pending epoch =>
        have inner := Step.leads_runAllWith v (s.asking loginId) during
        obtain ⟨_, _, missed, _⟩ := Gate.openRequest_pending opened
        have waiting : (s.asking loginId).gate = gate := missed.symm
        rw [Step.trace_of_pending opened, Step.runWith_of_pending opened rfl]
        constructor
        · rw [Gate.after, Gate.after_append, Gate.act, opened, ← waiting, ← inner.gate]
          rfl
        · refine inner.calls.trans ?_
          -- The question was counted when it was put, and its answer comes last.
          rw [List.countP_cons, List.countP_append, List.countP_singleton]
          have asked : (s.asking loginId).calls = s.calls + 1 := rfl
          rw [asked, Nat.add_right_comm]
          rfl
  | _ => exact ⟨rfl, rfl⟩

/-- The trace tells what a run did at the gate. -/
theorem Step.leads_runAllWith (v : Verifier) (s : State) (steps : List Step) :
    s.Leads (Step.traceAll v s steps) (Step.runAllWith v s steps).1 := by
  cases steps with
  | nil => exact ⟨rfl, rfl⟩
  | cons step rest =>
    rw [Step.traceAll, Step.runAllWith]
    exact (Step.leads_runWith v s step).trans (Step.leads_runAllWith v _ rest)

end

section Effect

open Text

/-- The cache after a question: with one more write if the verifier confirmed the credentials and no
act since then was an eviction. -/
def State.settled (t : State) (loginId password : String) (verdict : Except VerifyFailure Identity)
    (acts : List (Nat × Act)) : Cache :=
  match verdict with
  | .ok who =>
    if acts.any (·.2.isEviction) then t.gate.cache
    else (t.gate.cache.put t.now loginId ⟨who, passwordDigest password⟩).1
  | .error _ => t.gate.cache

/-- Between the question and its answer lies a run that ends in `t`. The decision ends as the
verifier says, whether or not there was a write. -/
structure Asked (v : Verifier) (s : State) (loginId password : String) (during : List Step)
    (t : State) (reports : List Report) (last : State) (outcome : Outcome) : Prop where
  ran : Step.runAllWith v (s.asking loginId) during = (t, reports)
  dropped : (s.asking loginId).gate.cache =
    if s.gate.cache.lookup s.now loginId = .expired then s.gate.cache.remove loginId
    else s.gate.cache
  questions : last.calls =
    s.calls + 1 + (Step.traceAll v (s.asking loginId) during).countP (·.2.isAnswer)
  cache : last.gate.cache = t.settled loginId password (v (s.asking loginId) loginId password)
    (Step.traceAll v (s.asking loginId) during)
  others : last = { t with gate := last.gate }
  outcome : outcome = .decided
    (match v (s.asking loginId) loginId password with
      | .ok who => .ok who
      | .error _ => .error .authenticationFailed)
    (some reports)

/-- All that a decision does, from any state, in three cases. -/
structure Decides (v : Verifier) (s : State) (loginId password : String) (during : List Step)
    (last : State) (outcome : Outcome) : Prop where
  blank : (allBlank loginId || allBlank password) = true →
    last = s ∧ outcome = .decided (.error .missingCredentials) none
  cached : ¬(allBlank loginId || allBlank password) = true →
    ∀ slot, s.gate.cache.lookup s.now loginId = .live slot →
      slot.credential.digest = passwordDigest password →
      last = { s with gate := s.gate.count .cacheHit } ∧
        outcome = .decided (.ok slot.credential.identity) none
  asked : ¬(allBlank loginId || allBlank password) = true →
    (∀ slot, s.gate.cache.lookup s.now loginId = .live slot →
      slot.credential.digest ≠ passwordDigest password) →
    ∃ t reports, Asked v s loginId password during t reports last outcome

theorem State.cache_asking (s : State) (loginId : String) :
    (s.asking loginId).gate.cache =
      if s.gate.cache.lookup s.now loginId = .expired then s.gate.cache.remove loginId
      else s.gate.cache := by
  rw [asking, Gate.cache_count, Gate.get]
  cases s.gate.cache.lookup s.now loginId with
  | absent => rfl
  | expired => rfl
  | live slot => rfl

/-- The epoch alone tells whether the write is kept. -/
theorem State.Leads.settled {s t : State} {acts : List (Nat × Act)} (leads : s.Leads acts t)
    (loginId password : String) (verdict : Except VerifyFailure Identity) :
    (t.gate.closeRequest t.now loginId password s.gate.cache.epoch verdict).1.cache =
      t.settled loginId password verdict acts := by
  cases verdict with
  | error e => rfl
  | ok who =>
    have steady : (s.gate.after acts).cache.epoch = s.gate.cache.epoch ↔
        ∀ entry ∈ acts, entry.2.isEviction = false := Gate.epoch_after_eq_iff
    rw [← leads.gate] at steady
    rw [Gate.cache_closeRequest_ok, State.settled]
    by_cases evicted : acts.any (·.2.isEviction) = true
    · rw [if_pos evicted, if_neg]
      intro same
      obtain ⟨entry, mem, eviction⟩ := List.any_eq_true.mp evicted
      rw [steady.mp same entry mem] at eviction
      cases eviction
    · rw [if_neg evicted, if_pos]
      apply steady.mpr
      intro entry mem
      exact Bool.eq_false_iff.mpr fun eviction => evicted (List.any_eq_true.mpr ⟨entry, mem, eviction⟩)

/-- From every state, with every verifier, and whatever happens while it is asked. -/
theorem decides_exactly (v : Verifier) (s : State) (loginId password : String)
    (during : List Step) :
    Decides v s loginId password during
      (Step.runWith v s (.authenticate loginId password during)).1
      (Step.runWith v s (.authenticate loginId password during)).2 := by
  constructor
  case blank =>
    intro blank
    rw [Step.runWith_of_decided (s.gate.openRequest_of_blank s.now blank)]
    exact ⟨rfl, rfl⟩
  case cached =>
    intro filled slot live same
    rw [Step.runWith_of_decided (Gate.openRequest_of_live filled live same)]
    exact ⟨rfl, rfl⟩
  case asked =>
    intro filled miss
    have opened := Gate.openRequest_of_miss filled miss
    have leads := Step.leads_runAllWith v (s.asking loginId) during
    have epoch : s.gate.cache.epoch = (s.asking loginId).gate.cache.epoch :=
      (s.gate.prunes_get s.now loginId).epoch.symm
    rw [Step.runWith_of_pending opened rfl, epoch]
    refine ⟨_, _, rfl, s.cache_asking loginId, leads.calls, leads.settled loginId password _, rfl, ?_⟩
    exact congrArg (Outcome.decided · _) (Gate.closeRequest_result ..)

end Effect

end MemberAuth.Auth
