import MemberAuth.Auth.Scenario
import MemberAuth.Proofs.Cache.Upkeep

/-!
# Upkeep is not seen

Two runs of the same steps, of which the second one has purges, look-ups and purge tasks besides, at
any places and also while a decision waits for the table of members. The two have the same outcomes,
ask the table as often, and count the same decisions. Only sizes, and how many entries a removal
found, may differ.
-/
namespace MemberAuth.Auth

/-- What a run may have besides. -/
inductive Upkeep
  | purge
  | get (key : String)
  | startPurging (interval : Nat)
  | stopPurging

def Upkeep.step : Upkeep → Step
  | purge => .purge
  | get key => .get key
  | startPurging interval => .startPurging interval
  | stopPurging => .stopPurging

def Step.isDecision : Step → Bool
  | .authenticate _ _ _ => true
  | _ => false

/-- The steps of a run, and between them those that only one of two runs has. -/
inductive Plan
  | done
  | common (step : Step) (simple : step.isDecision = false) (rest : Plan)
  | authenticate (loginId password : String) (during rest : Plan)
  | extra (upkeep : Upkeep) (rest : Plan)

/-- The steps with or without the additional ones. -/
def Plan.steps (extras : Bool) : Plan → List Step
  | done => []
  | common step _ rest => step :: rest.steps extras
  | authenticate loginId password during rest =>
    .authenticate loginId password (during.steps extras) :: rest.steps extras
  | extra upkeep rest => if extras then upkeep.step :: rest.steps extras else rest.steps extras

/-- Outcomes of a step that differ at most in which expired entries were resident. -/
def Step.SameOutcome : Step → Outcome → Outcome → Prop
  | .evict _, .flag _, .flag _ => True
  | .purge, .number _, .number _ => True
  | .info, .info ttl capacity _, .info ttl' capacity' _ => ttl' = ttl ∧ capacity' = capacity
  | _, outcome, outcome' => outcome' = outcome

/-- The reports of two runs, the second one with the additional steps: the outcomes of the common
steps are the same, and so are the epoch and the number of questions to the table after each. -/
inductive Plan.SameResults : Plan → List Report → List Report → Prop
  | done : SameResults .done [] []
  | common {step simple rest outcome outcome' size size' epoch calls reports reports'}
    (same : step.SameOutcome outcome outcome') (later : SameResults rest reports reports') :
    SameResults (.common step simple rest) (.mk outcome size epoch calls :: reports)
      (.mk outcome' size' epoch calls :: reports')
  | cached {loginId password during rest result size size' epoch calls reports reports'}
    (later : SameResults rest reports reports') :
    SameResults (.authenticate loginId password during rest)
      (.mk (.decided result none) size epoch calls :: reports)
      (.mk (.decided result none) size' epoch calls :: reports')
  | asked {loginId password during rest result meanwhile meanwhile' size size' epoch calls reports
      reports'}
    (same : SameResults during meanwhile meanwhile') (later : SameResults rest reports reports') :
    SameResults (.authenticate loginId password during rest)
      (.mk (.decided result (some meanwhile)) size epoch calls :: reports)
      (.mk (.decided result (some meanwhile')) size' epoch calls :: reports')
  | extra {upkeep rest reports report reports'} (later : SameResults rest reports reports') :
    SameResults (.extra upkeep rest) reports (report :: reports')

/-- A task purges at times that have come. -/
theorem PurgeTask.le_of_lastDue? {t : PurgeTask} {time due : Nat}
    (h : t.lastDue? time = some due) : due ≤ time := by
  rw [lastDue?] at h
  split at h
  · cases h
  rename_i n count
  cases h
  rw [dueCount] at count
  split at count
  · cases count
  · rename_i started
    have last : (time - t.due) / t.interval = n := Nat.succ.inj count
    have := Nat.div_mul_le_self (time - t.due) t.interval
    rw [last] at this
    omega

theorem PurgeTasks.le_of_lastDue? {ts : PurgeTasks} {time due : Nat}
    (h : ts.lastDue? time = some due) : due ≤ time := by
  obtain ⟨t, _, last⟩ := List.mem_filterMap.mp (List.max?_mem h)
  exact PurgeTask.le_of_lastDue? last

namespace State

/-- Two states that differ in expired entries and in purge tasks only. -/
structure Alike (s s' : State) : Prop where
  gate : s.gate.Alike s.now s'.gate
  same : ∃ gate purging, s' = { s with gate, purging }

theorem alike_new (ttl capacity : Nat) : (new ttl capacity).Alike (new ttl capacity) :=
  ⟨.refl (Gate.sound_new ttl capacity 0), _, _, rfl⟩

namespace Alike

variable {s s' s'' : State}

theorem refl_left (h : s.Alike s') : s.Alike s :=
  ⟨.refl h.gate.left, _, _, rfl⟩

theorem symm (h : s.Alike s') : s'.Alike s := by
  obtain ⟨gate, _, _, rfl⟩ := h
  exact ⟨gate.symm, s.gate, s.purging, rfl⟩

theorem trans (h : s.Alike s') (h' : s'.Alike s'') : s.Alike s'' := by
  obtain ⟨gate, _, _, rfl⟩ := h
  obtain ⟨gate', _, _, rfl⟩ := h'
  exact ⟨gate.trans gate', _, _, rfl⟩

theorem now (h : s.Alike s') : s'.now = s.now := by
  obtain ⟨_, _, _, rfl⟩ := h
  rfl

theorem calls (h : s.Alike s') : s'.calls = s.calls := by
  obtain ⟨_, _, _, rfl⟩ := h
  rfl

/-- Purge tasks have no part in being alike. -/
theorem repurpose (h : s.Alike s') (tasks tasks' : PurgeTasks) :
    Alike { s with purging := tasks } { s' with purging := tasks' } := by
  obtain ⟨gate, _, _, rfl⟩ := h
  exact ⟨gate, _, _, rfl⟩

theorem put (h : s.Alike s') (key : String) (identity : Identity) (password : String) :
    (s.put key identity password).Alike (s'.put key identity password) := by
  obtain ⟨gate, _, _, rfl⟩ := h
  exact ⟨gate.answer (.put key (credential identity password)), _, _, rfl⟩

theorem fill (h : s.Alike s') (stem : String) (first past : Nat) (password : String) :
    (s.fill stem first past password).Alike (s'.fill stem first past password) := by
  rw [State.fill, State.fill]
  induction List.range' first (past - first) generalizing s s' with
  | nil => exact h
  | cons number rest ih => exact ih (h.put _ _ password)

section Extra

/-! What only one of the two does. -/

theorem purge (h : s.Alike s') {time : Nat} (before : time ≤ s.now) : s.Alike (s'.purge time) := by
  obtain ⟨gate, _, _, rfl⟩ := h
  exact ⟨gate.purge before, _, _, rfl⟩

theorem startPurging (h : s.Alike s') (interval : Nat) : s.Alike (s'.startPurging interval) := by
  rw [State.startPurging]
  split
  · exact h.repurpose s.purging _
  · rw [h.now]
    exact (h.purge (Nat.le_refl s.now)).repurpose s.purging _

/-- Of the time that passes, the other one has the purges as well. -/
theorem advance_right (h : s.Alike s') (duration : Nat) :
    Alike { s with now := s.now + duration } (s'.advance duration) := by
  have later : Alike { s with now := s.now + duration } { s' with now := s.now + duration } := by
    obtain ⟨gate, _, _, rfl⟩ := h
    exact ⟨gate.later (Nat.le_add_right s.now duration), _, _, rfl⟩
  rw [State.advance, h.now]
  split
  · exact later.repurpose s.purging _
  · rename_i due last
    exact (later.purge (PurgeTasks.le_of_lastDue? last)).repurpose s.purging _

theorem extra (h : s.Alike s') (upkeep : Upkeep) : s.Alike (upkeep.step.run s').1 := by
  cases upkeep with
  | purge =>
    have purged := h.purge (Nat.le_refl s.now)
    rw [← h.now] at purged
    exact purged
  | get key =>
    obtain ⟨gate, _, _, rfl⟩ := h
    exact ⟨gate.get key, _, _, rfl⟩
  | startPurging interval => exact h.startPurging interval
  | stopPurging => exact h.repurpose s.purging _

end Extra

theorem advance (h : s.Alike s') (duration : Nat) :
    (s.advance duration).Alike (s'.advance duration) :=
  (h.refl_left.advance_right duration).symm.trans (h.advance_right duration)

/-- What a look-up finds, up to the number of the write. -/
theorem get (h : s.Alike s') (key : String) :
    (s'.gate.get s'.now key).2.map (Slot.entry · key) =
        (s.gate.get s.now key).2.map (Slot.entry · key) ∧
      Alike { s with gate := (s.gate.get s.now key).1 }
        { s' with gate := (s'.gate.get s'.now key).1 } := by
  obtain ⟨gate, _, _, rfl⟩ := h
  have steady : CacheCall.isSteady (.get key) = true := rfl
  exact ⟨CacheReply.found.inj (gate.reply steady), gate.answer (.get key), _, _, rfl⟩

/-- A look-up shows the identity, the digest and the age, none of which depends on the number of
the write. -/
theorem map_get {β : Type} (h : s.Alike s') (key : String) {f f' : Slot → β} (view : CacheEntry → β)
    (seen : ∀ slot, f slot = view (slot.entry key)) (seen' : ∀ slot, f' slot = view (slot.entry key)) :
    (s'.gate.get s'.now key).2.map f' = (s.gate.get s.now key).2.map f := by
  have same := congrArg (Option.map view) (h.get key).1
  rw [Option.map_map, Option.map_map] at same
  rw [funext seen, funext seen']
  exact same

theorem run (h : s.Alike s') {step : Step} (simple : step.isDecision = false) :
    step.SameOutcome (step.run s).2 (step.run s').2 ∧ (step.run s).1.Alike (step.run s').1 := by
  cases step with
  | idle => exact ⟨rfl, h⟩
  | put key identity password => exact ⟨rfl, h.put key identity password⟩
  | fill stem first past password => exact ⟨rfl, h.fill stem first past password⟩
  | keepEpoch name =>
    obtain ⟨alike, gate, purging, rfl⟩ := h
    have epoch : gate.cache.epoch = s.gate.cache.epoch := alike.epoch
    refine ⟨congrArg Outcome.number epoch, alike, gate, purging, ?_⟩
    rw [Step.run, Step.run]
    dsimp only
    rw [epoch]
  | putIfUnchanged key identity password ref =>
    obtain ⟨alike, gate, purging, rfl⟩ := h
    have known : State.epochOf? { s with gate, purging } ref = s.epochOf? ref := by
      cases ref <;> rfl
    rw [Step.run, Step.run, known]
    cases s.epochOf? ref with
    | none => exact ⟨rfl, alike, gate, purging, rfl⟩
    | some epoch =>
      have steady : CacheCall.isSteady (.putIfUnchanged key (State.credential identity password)
        epoch) = true := rfl
      exact ⟨congrArg Outcome.flag (CacheReply.flag.inj (alike.reply steady)),
        alike.answer (.putIfUnchanged key (State.credential identity password) epoch), _, _, rfl⟩
  | get key =>
    obtain ⟨_, alike⟩ := h.get key
    refine ⟨congrArg Outcome.found (h.map_get key
      (fun e => ⟨e.credential.identity, e.credential.digest, s.now - e.insertedAt⟩) ?_ ?_), alike⟩
    · intro slot
      rfl
    · intro slot
      rw [State.sighting, h.now]
      rfl
  | matchPassword key password =>
    obtain ⟨_, alike⟩ := h.get key
    refine ⟨congrArg Outcome.matched (h.map_get key
      (fun e => (e.credential.digest == passwordDigest password, e.credential.identity)) ?_ ?_),
      alike⟩
    · intro slot
      rfl
    · intro slot
      rfl
  | evict key =>
    obtain ⟨gate, _, _, rfl⟩ := h
    exact ⟨trivial, gate.answer (.evict key), _, _, rfl⟩
  | purge =>
    obtain ⟨gate, _, _, rfl⟩ := h
    exact ⟨trivial, gate.answer .purge, _, _, rfl⟩
  | info =>
    have ttl := congrArg Ledger.ttl h.gate.live
    have capacity := congrArg Ledger.capacity h.gate.live
    exact ⟨⟨ttl, capacity⟩, h⟩
  | advance duration => exact ⟨rfl, h.advance duration⟩
  | startPurging interval =>
    exact ⟨rfl, (h.refl_left.startPurging interval).symm.trans (h.startPurging interval)⟩
  | stopPurging => exact ⟨rfl, h.repurpose _ _⟩
  | setAccount key account =>
    obtain ⟨gate, _, _, rfl⟩ := h
    exact ⟨rfl, gate, _, _, rfl⟩
  | removeAccount key =>
    obtain ⟨gate, _, _, rfl⟩ := h
    exact ⟨rfl, gate, _, _, rfl⟩
  | setOutage reason =>
    obtain ⟨gate, _, _, rfl⟩ := h
    exact ⟨rfl, gate, _, _, rfl⟩
  | authenticate loginId password during => cases simple

theorem report (h : s.Alike s') (outcome : Outcome) :
    ∃ size, s'.report outcome = .mk outcome size s.gate.cache.epoch s.calls := by
  obtain ⟨alike, gate, purging, rfl⟩ := h
  have epoch : gate.cache.epoch = s.gate.cache.epoch := alike.epoch
  refine ⟨gate.cache.size, ?_⟩
  rw [State.report]
  dsimp only
  rw [epoch]

/-- A decision, during which the runs may differ in upkeep. -/
theorem authenticate (h : s.Alike s') (loginId password : String) {during : Plan}
    (inner : ∀ {t t' : State}, t.Alike t' →
      during.SameResults (Step.runAll t (during.steps false)).2
          (Step.runAll t' (during.steps true)).2 ∧
        (Step.runAll t (during.steps false)).1.Alike (Step.runAll t' (during.steps true)).1) :
    (Step.run s (.authenticate loginId password (during.steps false))).1.Alike
        (Step.run s' (.authenticate loginId password (during.steps true))).1 ∧
      ∀ {rest reports reports'} (size size' epoch calls : Nat),
        rest.SameResults reports reports' →
        Plan.SameResults (.authenticate loginId password during rest)
          (.mk (Step.run s (.authenticate loginId password (during.steps false))).2
            size epoch calls :: reports)
          (.mk (Step.run s' (.authenticate loginId password (during.steps true))).2
            size' epoch calls :: reports') := by
  obtain ⟨alike, gate, purging, rfl⟩ := h
  obtain ⟨opening, opened⟩ := alike.openRequest loginId password
  rw [Step.run, Step.run]
  dsimp only at opening opened ⊢
  generalize s.gate.openRequest s.now loginId password = left at opening opened ⊢
  generalize gate.openRequest s.now loginId password = right at opening opened ⊢
  obtain ⟨g, decision⟩ := left
  obtain ⟨g', decision'⟩ := right
  obtain rfl : decision' = decision := opening
  cases decision' with
  | decided result => exact ⟨⟨opened, g', purging, rfl⟩, fun _ _ _ _ => .cached⟩
  | pending epoch =>
    have waiting : Alike { s with gate := g, calls := s.calls + 1 }
        { s with gate := g', purging, calls := s.calls + 1 } := ⟨opened, g', purging, rfl⟩
    obtain ⟨same, ended⟩ := inner waiting
    dsimp only
    -- The table has given its answer before the steps that happen meanwhile.
    have verdict : State.verdict { s with gate := g', purging, calls := s.calls + 1 } loginId
        password = State.verdict { s with gate := g, calls := s.calls + 1 } loginId password := rfl
    rw [verdict]
    generalize State.verdict _ loginId password = verdict
    generalize Step.runAll _ (during.steps false) = left at same ended ⊢
    generalize Step.runAll _ (during.steps true) = right at same ended ⊢
    obtain ⟨t, meanwhile⟩ := left
    obtain ⟨t', meanwhile'⟩ := right
    obtain ⟨alike, gate, purging, rfl⟩ := ended
    obtain ⟨result, closed⟩ := alike.closeRequest loginId password epoch verdict
    dsimp only at result closed same ⊢
    rw [result]
    exact ⟨⟨closed, _, purging, rfl⟩, fun _ _ _ _ => .asked same⟩

theorem runAll (plan : Plan) (h : s.Alike s') :
    plan.SameResults (Step.runAll s (plan.steps false)).2 (Step.runAll s' (plan.steps true)).2 ∧
      (Step.runAll s (plan.steps false)).1.Alike (Step.runAll s' (plan.steps true)).1 := by
  induction plan generalizing s s' with
  | done => exact ⟨.done, h⟩
  | common step simple rest ih =>
    obtain ⟨same, after⟩ := h.run simple
    obtain ⟨later, ended⟩ := ih after
    refine ⟨?_, ended⟩
    obtain ⟨size, report⟩ := after.report (step.run s').2
    rw [Plan.steps, Plan.steps, Step.runAll, Step.runAll]
    dsimp only
    rw [report]
    exact .common same later
  | authenticate loginId password during rest inner ih =>
    obtain ⟨after, decided⟩ := h.authenticate loginId password inner
    obtain ⟨later, ended⟩ := ih after
    refine ⟨?_, ended⟩
    obtain ⟨size, report⟩ :=
      after.report (Step.run s' (.authenticate loginId password (during.steps true))).2
    rw [Plan.steps, Plan.steps, Step.runAll, Step.runAll]
    dsimp only
    rw [report]
    exact decided _ size _ _ later
  | extra upkeep rest ih =>
    obtain ⟨later, ended⟩ := ih (h.extra upkeep)
    exact ⟨.extra later, ended⟩

end Alike

end State

/-- From an empty cache on, upkeep changes no outcome but that of removals, neither how often the
table is asked nor what is counted about decisions. -/
theorem upkeep_unobservable (ttl capacity : Nat) (plan : Plan) :
    plan.SameResults (Step.runAll (.new ttl capacity) (plan.steps false)).2
        (Step.runAll (.new ttl capacity) (plan.steps true)).2 ∧
      (Step.runAll (.new ttl capacity) (plan.steps true)).1.calls =
        (Step.runAll (.new ttl capacity) (plan.steps false)).1.calls ∧
      (Step.runAll (.new ttl capacity) (plan.steps true)).1.gate.metrics.withoutResidency =
        (Step.runAll (.new ttl capacity) (plan.steps false)).1.gate.metrics.withoutResidency := by
  obtain ⟨same, ended⟩ := (State.alike_new ttl capacity).runAll plan
  exact ⟨same, ended.calls, ended.gate.counted⟩

end MemberAuth.Auth
