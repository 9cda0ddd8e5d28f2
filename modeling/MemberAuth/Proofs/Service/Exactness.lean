import MemberAuth.Proofs.Http.Login
import MemberAuth.Proofs.Service.Overlap
import MemberAuth.Proofs.Store.Weather

/-!
# A change of a password is exact

A change either succeeds, and then the stored member has a hash that accepts the new password, its
cached credential is gone and no other member and no other entry is touched; or it ends in an error,
and then members, cache and counters are as they were, whatever step of the store failed. The reasons
to refuse it come in a fixed order, and without one it succeeds unless a step of the store fails.
-/
namespace MemberAuth

open Store

namespace Service

/-- The first reason there is to refuse a change, given the stored member. -/
def refusal? (rules : Rules) (stored : Option Member) (current new : String) : Option Failure :=
  match stored with
  | none => some .authenticationFailed
  | some m =>
    if rules.hasher.verify m.passwordHash current = false then some .authenticationFailed
    else if rules.hasher.verify m.passwordHash new = true then some .samePassword
    else
      match Policy.validate rules.characterRule m.birthDate new with
      | .error violation => some (.policy violation)
      | .ok () => none

theorem checkChange_eq (rules : Rules) (m : Member) (current new : String) :
    checkChange rules m current new = match refusal? rules (some m) current new with
      | some e => .error e
      | none => .ok () := by
  rw [checkChange, refusal?]
  by_cases knows : rules.hasher.verify m.passwordHash current = true
  · by_cases same : rules.hasher.verify m.passwordHash new = true
    · simp [knows, same, bind, Except.bind, throw, throwThe, MonadExceptOf.throw]
    · cases policy : Policy.validate rules.characterRule m.birthDate new with
      | error violation => simp [knows, same, Except.mapError]
      | ok _ => simp [knows, same, Except.mapError]
  · simp [knows, bind, Except.bind, throw, throwThe, MonadExceptOf.throw]

theorem refusal?_eq_none {rules : Rules} {m : Member} {current new : String}
    (checked : checkChange rules m current new = .ok ()) :
    refusal? rules (some m) current new = none := by
  rw [checkChange_eq] at checked
  split at checked
  · cases checked
  · assumption

end Service

namespace App

open Service Changing Trial

/-- One call of the service. A store call finds a failure waiting, or is carried out with any of the
given file steps failing. -/
inductive Makes (fails : FileCall → Prop) (a : App) : (c : Call) → App → c.Reply → Prop
  | performed (c : Call) : Makes fails a c (a.perform c).1 (a.perform c).2
  | find {loginId t r} (carried : Carried fails (Store.find loginId) ⟨a.shelf, []⟩ t (some r)) :
    Makes fails a (.find loginId) { a with shelf := t.shelf } r
  | insert {m t r} (carried : Carried fails (Store.insert m) ⟨a.shelf, []⟩ t (some r)) :
    Makes fails a (.insert m) { a with shelf := t.shelf } r
  | update {loginId passwordHash t r}
    (carried : Carried fails (Store.update loginId passwordHash) ⟨a.shelf, []⟩ t (some r)) :
    Makes fails a (.update loginId passwordHash) { a with shelf := t.shelf } r

/-- The calls of a script, made one after the other with nothing between them. -/
inductive Serves (fails : FileCall → Prop) {α : Type} : ServiceScript α → App → App → α → Prop
  | done (value : α) (a : App) : Serves fails (.done value) a a value
  | call {c next a b last r value} (made : Makes fails a c b r)
    (rest : Serves fails (next r) b last value) : Serves fails (.call c next) a last value

variable {fails : FileCall → Prop} {a b : App} {loginId passwordHash current new : String}

/-- What the application does in one go is one of the ways. -/
theorem serves_serve {α : Type} (fails : FileCall → Prop) (script : ServiceScript α) (a : App) :
    Serves fails script a (a.serve script).1 (a.serve script).2 := by
  induction script generalizing a with
  | done value => exact .done value a
  | call c next ih => exact .call (.performed c) (ih _ _)

section Weathered

theorem weathered_perform (h : a.shelf.Weathered) (c : Call) :
    (a.perform c).1.shelf.Weathered := by
  have ran {α : Type} {script : FileScript α} (stays : Stays script) :
      (script.run Shelf.perform a.shelf).1.Weathered := by
    obtain ⟨placed, carried⟩ := carried_run (fun _ => True) script ⟨a.shelf, []⟩
    exact h.carried stays carried
  cases c with
  | find loginId =>
    rcases a.perform_find_cases loginId with ⟨_, _, made⟩ | made
    · rw [made]
      exact h
    · rw [made]
      exact h
  | insert m =>
    rcases a.perform_insert_cases m with ⟨_, _, made⟩ | made
    · rw [made]
      exact h
    · rw [made]
      exact ran (stays_insert m)
  | update loginId passwordHash =>
    rcases a.perform_update_cases loginId passwordHash with ⟨_, _, made⟩ | made
    · rw [made]
      exact h
    · rw [made]
      exact ran (stays_update loginId passwordHash)
  | salt => exact h
  | evict loginId => exact h
  | count k => exact h

theorem Makes.weathered {c : Call} {r : c.Reply} (h : a.shelf.Weathered)
    (made : Makes fails a c b r) : b.shelf.Weathered := by
  cases made with
  | performed => exact weathered_perform h c
  | find carried => exact h.carried (stays_find _) carried
  | insert carried => exact h.carried (stays_insert _) carried
  | update carried => exact h.carried (stays_update _ _) carried

theorem Serves.weathered {α : Type} {script : ServiceScript α} {value : α} (h : a.shelf.Weathered)
    (run : Serves fails script a b value) : b.shelf.Weathered := by
  induction run with
  | done => exact h
  | call made _ ih => exact ih (made.weathered h)

theorem weathered_step {v w : Interleaving.World} {event : Option Interleaving.Event}
    (h : v.app.shelf.Weathered) (step : v.Step event w) : w.app.shelf.Weathered := by
  cases step with
  | authenticate _ loginId password => exact h
  | change _ loginId current new => exact h
  | register _ r => exact h
  | advance _ duration => exact h
  | purge _ => exact h
  | turn a before after t =>
    cases t with
    | deciding loginId password =>
      simp only [Interleaving.Task.turn]
      split
      · exact h
      · exact h
    | verifying loginId password epoch rest =>
      cases rest with
      | done verdict => exact h
      | call c next => exact weathered_perform h c
    | decided loginId password result => exact h
    | serving loginId rest =>
      cases rest with
      | done result => exact h
      | call c next => exact weathered_perform h c

theorem weathered_of_reaches {v w : Interleaving.World} (h : v.app.shelf.Weathered)
    (run : v.Reaches w) : w.app.shelf.Weathered := by
  induction run with
  | refl => exact h
  | tail _ step ih =>
    obtain ⟨event, step⟩ := step
    exact weathered_step ih step

/-- In particular, the store of an application is weathered in every state that it gets into. -/
theorem weathered_of_reachable (h : Http.Reachable a) : a.shelf.Weathered := by
  induction h with
  | start started =>
    obtain ⟨shelf, _, opened, _, rfl⟩ := start_eq_ok started
    exact .opened opened
  | requests before run ih => exact weathered_of_reaches ih run
  | restart before started ih =>
    obtain ⟨shelf, _, opened, _, rfl⟩ := start_eq_ok started
    exact .reopened ih opened

end Weathered

section Calls

/-- A look-up gives what is there, unless a failure waits or reading fails. A member that it gives is
there in any case. -/
theorem Makes.find_cases {r : Except Failure (Option Member)}
    (made : Makes fails a (.find loginId) b r) :
    (∃ faults, faults.onUpdate = a.faults.onUpdate ∧ b = { a with faults }) ∧
      (∀ stored, a.shelf.find loginId = .ok stored → a.faults.onFind = [] →
        (∀ p, ¬ fails (.read p)) → r = .ok stored) ∧
      ∀ m, r = .ok (some m) → a.shelf.find loginId = .ok (some m) := by
  cases made with
  | performed =>
    rw [perform]
    split
    · rename_i e rest waiting
      refine ⟨⟨{ a.faults with onFind := rest }, rfl, rfl⟩, ?_, ?_⟩
      · intro stored _ idle
        rw [waiting] at idle
        cases idle
      · intro m told
        cases told
    · rw [a.onStore_find]
      exact ⟨⟨a.faults, rfl, rfl⟩, fun _ there _ _ => there, fun _ told => told⟩
  | find carried =>
    obtain ⟨same, found⟩ := carried.find
    rw [same]
    refine ⟨⟨a.faults, rfl, rfl⟩, ?_, ?_⟩
    · intro stored there _ reliable
      rcases found with found | ⟨⟨p, may⟩, _⟩
      · exact found.trans there
      · exact absurd may (reliable p)
    · intro m told
      rcases found with found | ⟨_, absent⟩
      · exact found.symm.trans told
      · exact absurd told (absent m)

/-- A change of a hash is made in full or not at all, and fails only for a reason. -/
theorem Makes.update_cases (h : a.shelf.Weathered) {r : Except Failure Unit}
    (made : Makes fails a (.update loginId passwordHash) b r) :
    (∃ shelf faults, b = { a with shelf, faults }) ∧
      (r = .ok () → ∃ old, a.shelf.Rehashed b.shelf loginId passwordHash old) ∧
      (∀ e, r = .error e → a.shelf.Unchanged b.shelf) ∧
      (a.faults.onUpdate = [] → (∀ c, ¬ fails c) → ∀ m, a.shelf.find loginId = .ok (some m) →
        r = .ok ()) := by
  cases made with
  | performed =>
    rw [perform]
    split
    · rename_i e rest waiting
      refine ⟨⟨a.shelf, _, rfl⟩, ?_, fun _ _ => ⟨fun _ _ => rfl, fun _ => rfl⟩, ?_⟩
      · intro told
        cases told
      · intro idle
        rw [waiting] at idle
        cases idle
    · obtain ⟨placed, carried⟩ :=
        carried_run (fun _ => False) (Store.update loginId passwordHash) ⟨a.shelf, []⟩
      obtain ⟨changed, failed⟩ := h.update carried
      refine ⟨⟨_, a.faults, rfl⟩, changed, failed, fun _ _ m stored => ?_⟩
      exact h.update_ok stored (fun _ => id) carried
  | update carried =>
    obtain ⟨changed, failed⟩ := h.update carried
    refine ⟨⟨_, a.faults, rfl⟩, changed, failed, fun _ sound m stored => ?_⟩
    exact h.update_ok stored sound carried

end Calls

/-- After a change that succeeded. -/
structure Changed (a b : App) (loginId new : String) (old m : Member) : Prop where
  rehashed : a.shelf.Rehashed b.shelf loginId m.passwordHash old
  stored : b.shelf.find loginId = .ok (some m)
  member : m = { old with passwordHash := m.passwordHash }
  accepts : a.rules.hasher.verify m.passwordHash new = true
  dropped : b.gate.cache.slots[loginId]? = none
  kept : ∀ key, key ≠ loginId → b.gate.cache.slots[key]? = a.gate.cache.slots[key]?
  epoch : b.gate.cache.epoch = a.gate.cache.epoch + 1
  counted : b.gate.metrics.get .passwordChanged = a.gate.metrics.get .passwordChanged + 1

/-- After a change that did not. -/
structure Spared (a b : App) : Prop where
  shelf : a.shelf.Unchanged b.shelf
  gate : b.gate = a.gate

theorem spared_faults (a : App) (faults : Faults) : Spared a { a with faults } :=
  ⟨⟨fun _ _ => rfl, fun _ => rfl⟩, rfl⟩

/-- An eviction removes one entry and advances the epoch. It does not count as a change. -/
theorem gate_of_evict (g : Gate) (loginId : String) :
    (g.evict loginId).1.cache.slots[loginId]? = none ∧
      (∀ key, key ≠ loginId →
        (g.evict loginId).1.cache.slots[key]? = g.cache.slots[key]?) ∧
      (g.evict loginId).1.cache.epoch = g.cache.epoch + 1 ∧
      (g.evict loginId).1.metrics.get .passwordChanged = g.metrics.get .passwordChanged := by
  rw [g.cache_evict]
  refine ⟨?_, ?_, rfl, ?_⟩
  · exact (g.cache.remove_getElem? loginId loginId).trans (if_pos rfl)
  · intro key other
    exact (g.cache.remove_getElem? loginId key).trans (if_neg other.symm)
  · simp only [Gate.evict]
    split
    · rfl
    · rfl

/-- How a change goes on after the update. -/
def afterUpdate (loginId passwordHash : String) (m : Member) :
    Except Failure Unit → ServiceScript (Except Failure Member)
  | .error e => .done (.error e)
  | .ok () => .call (.evict loginId) fun _ => .call (.count .passwordChanged) fun _ =>
    .done (.ok { m with passwordHash })

theorem storing_eq (loginId passwordHash : String) (m : Member) :
    storing loginId passwordHash m =
      .call (.update loginId passwordHash) (afterUpdate loginId passwordHash m) := by
  refine congrArg (Script.call _) (funext fun r => ?_)
  cases r with
  | error e => rfl
  | ok _ => rfl

/-- The end of a change is as the update is. -/
theorem Serves.storing_cases {m : Member} {result : Except Failure Member}
    (run : Serves fails (storing loginId passwordHash m) a b result) (h : a.shelf.Weathered) :
    (∀ m', result = .ok m' → m' = { m with passwordHash } ∧
      (∃ old, a.shelf.Rehashed b.shelf loginId passwordHash old) ∧
        b.gate = (a.gate.evict loginId).1.count .passwordChanged) ∧
      (∀ e, result = .error e → Spared a b) ∧
      (a.faults.onUpdate = [] → (∀ c, ¬ fails c) → ∀ m', a.shelf.find loginId = .ok (some m') →
        ∃ m', result = .ok m') := by
  rw [storing_eq] at run
  cases run with
  | @call _ _ _ c _ r _ made rest =>
  obtain ⟨⟨shelf, faults, rfl⟩, changed, failed, sound⟩ := made.update_cases h
  cases r with
  | error e =>
    cases rest
    refine ⟨?_, fun _ _ => ⟨failed e rfl, rfl⟩, ?_⟩
    · intro m' told
      cases told
    · intro idle reliable m' stored
      cases sound idle reliable m' stored
  | ok _ =>
    cases rest with
    | call evicted rest =>
    cases evicted
    cases rest with
    | call counted rest =>
    cases counted
    cases rest
    refine ⟨?_, ?_, fun _ _ _ _ => ⟨_, rfl⟩⟩
    · rintro _ ⟨⟩
      exact ⟨rfl, changed rfl, rfl⟩
    · intro e told
      cases told

/-- A change that was not refused ends in one of two ways. -/
theorem Serves.replacing_cases {faults : Faults} {m : Member} {result : Except Failure Member}
    (h : a.shelf.Weathered) (stored : a.shelf.find loginId = .ok (some m))
    (run : Serves fails (replacing a.rules loginId new m) { a with faults } b result) :
    (∀ m', result = .ok m' → Changed a b loginId new m m') ∧
      (∀ e, result = .error e → Spared a b) ∧
      (faults.onUpdate = [] → (∀ c, ¬ fails c) → ∃ m', result = .ok m') := by
  cases run with
  | call salted rest =>
  cases salted
  have rest : Serves fails (storing loginId (a.rules.hasher.hash (a.salts a.saltCount) new) m)
      { a with faults, saltCount := a.saltCount + 1 } b result := rest
  obtain ⟨changed, spared, sound⟩ := rest.storing_cases h
  refine ⟨?_, ?_, fun idle reliable => sound idle reliable m stored⟩
  · intro m' told
    obtain ⟨rfl, ⟨old, rehashed⟩, gate⟩ := changed m' told
    obtain rfl : old = m :=
      Option.some.inj (Except.ok.inj (rehashed.before.symm.trans stored))
    obtain ⟨dropped, kept, epoch, counted⟩ := gate_of_evict a.gate loginId
    have accepts := a.rules.hasher.verify_hash a.rules.hasher (a.salts a.saltCount) new new
    refine ⟨rehashed, rehashed.after, rfl, accepts.mpr rfl, ?_, ?_, ?_, ?_⟩
    · rw [gate]
      exact dropped
    · rw [gate]
      exact kept
    · rw [gate]
      exact epoch
    · rw [gate, Gate.count, Metrics.count, Metrics.get_add, if_pos rfl]
      exact congrArg (· + 1) counted
  · intro e told
    exact ⟨(spared e told).shelf, (spared e told).gate⟩

/-- How a change of a password relates to the application before and after it. -/
structure Exact (fails : FileCall → Prop) (a b : App) (loginId current new : String)
    (result : Except Failure Member) : Prop where
  changed : ∀ m, result = .ok m →
    ∃ old, refusal? a.rules (some old) current new = none ∧ Changed a b loginId new old m
  spared : ∀ e, result = .error e → Spared a b
  /-- If the stored member can be read, the first reason to refuse the change is its answer. -/
  refused : ∀ stored e, a.shelf.find loginId = .ok stored → a.faults.onFind = [] →
    (∀ p, ¬ fails (.read p)) → refusal? a.rules stored current new = some e → result = .error e
  /-- Without a reason, and with a store that works, there is no error. -/
  succeeds : ∀ stored, a.shelf.find loginId = .ok stored → a.faults.onFind = [] →
    a.faults.onUpdate = [] → (∀ c, ¬ fails c) → refusal? a.rules stored current new = none →
    ∃ m, result = .ok m

theorem exact_of_error {e : Failure} (spared : Spared a b)
    (because : ∀ stored, a.shelf.find loginId = .ok stored → a.faults.onFind = [] →
      (∀ p, ¬ fails (.read p)) → refusal? a.rules stored current new = some e) :
    Exact fails a b loginId current new (.error e) := by
  constructor
  · intro m told
    cases told
  · exact fun _ _ => spared
  · intro stored e' there idle reliable reason
    cases (because stored there idle reliable).symm.trans reason
    rfl
  · intro stored there idle _ sound unrefused
    cases (because stored there idle fun p => sound _).symm.trans unrefused

/-- A change whose look-up gave the stored member. -/
theorem exact_of_stored {faults : Faults} {m : Member} {result : Except Failure Member}
    (weathered : a.shelf.Weathered) (stored : a.shelf.find loginId = .ok (some m))
    (waiting : faults.onUpdate = a.faults.onUpdate)
    (run : Serves fails (afterLookup a.rules loginId current new (.ok (some m))) { a with faults } b
      result) : Exact fails a b loginId current new result := by
  have only : ∀ found, a.shelf.find loginId = .ok found → found = some m :=
    fun found there => Except.ok.inj (there.symm.trans stored)
  rw [afterLookup, checkChange_eq] at run
  cases reason : refusal? a.rules (some m) current new with
  | some e =>
    rw [reason] at run
    cases run
    apply exact_of_error (spared_faults a faults)
    intro found there _ _
    rw [only found there]
    exact reason
  | none =>
    rw [reason] at run
    obtain ⟨changed, failed, sound⟩ := run.replacing_cases weathered stored
    constructor
    · exact fun m' told => ⟨m, reason, changed m' told⟩
    · exact failed
    · intro found e there _ _ refused
      rw [only found there, reason] at refused
      cases refused
    · exact fun _ _ _ still reliable _ => sound (waiting.trans still) reliable

/-- A change of a password is made in full or not at all, whatever is in the store and whatever file
steps fail. -/
theorem changes_exactly (weathered : a.shelf.Weathered) {result : Except Failure Member}
    (run : Serves fails (Service.changePassword a.rules loginId current new) a b result) :
    Exact fails a b loginId current new result := by
  rw [Changing.changePassword_eq] at run
  cases run with
  | @call _ _ _ c _ r _ made rest =>
  obtain ⟨⟨faults, waiting, rfl⟩, reads, there⟩ := made.find_cases
  match r with
  | .error e =>
    cases rest
    apply exact_of_error (spared_faults a faults)
    intro stored found idle reliable
    cases reads stored found idle reliable
  | .ok none =>
    cases rest
    apply exact_of_error (spared_faults a faults)
    intro stored found idle reliable
    cases reads stored found idle reliable
    rfl
  | .ok (some m) => exact exact_of_stored weathered (there m rfl) waiting rest

/-- A registered member changes the password, and no step of the store fails. -/
theorem changes_exactly_for_ada : ∃ a b m,
    (costing Hash.lowestCost).register (adaRegistration "Lovelace#1") =
        (a, .ok (adaMember Hash.lowestCost "Lovelace#1")) ∧ a.shelf.Weathered ∧
      Serves (fun _ => False) (Service.changePassword a.rules "ada" "Lovelace#1" "Lovelace#2") a b
        (.ok m) ∧
      Changed a b "ada" "Lovelace#2" (adaMember Hash.lowestCost "Lovelace#1") m := by
  obtain ⟨a, new, register, registered, stored⟩ :=
    register_ada Hash.lowestCost (valid_ada "Lovelace#1" (by simp))
  have weathered : a.shelf.Weathered := by
    have opened : (costing Hash.lowestCost).shelf.Weathered :=
      .opened (congrArg Prod.snd (Workshop.openOn_empty 0))
    have run := serves_serve (fun _ => False)
      (Service.register (costing Hash.lowestCost).rules (adaRegistration "Lovelace#1"))
      (costing Hash.lowestCost)
    have ran := run.weathered opened
    rwa [← App.register, register] at ran
  have found : a.shelf.find "ada" = .ok (some (adaMember Hash.lowestCost "Lovelace#1")) := by
    rw [registered.keeps.find, stored]
  have unrefused : refusal? a.rules (some (adaMember Hash.lowestCost "Lovelace#1")) "Lovelace#1"
      "Lovelace#2" = none := by
    refine refusal?_eq_none (checkChange_ada ?_ "Lovelace#2" (by simp))
    rw [registered.rules]
    rfl
  obtain ⟨b, result, run⟩ : ∃ b result, Serves (fun _ => False)
      (Service.changePassword a.rules "ada" "Lovelace#1" "Lovelace#2") a b result :=
    ⟨_, _, serves_serve _ _ a⟩
  -- so that no hash is evaluated
  generalize adaMember Hash.lowestCost "Lovelace#1" = ada at register found unrefused ⊢
  have exact := changes_exactly weathered run
  obtain ⟨m, told⟩ := exact.succeeds _ found (by rw [registered.unfailing]; rfl)
    (by rw [registered.unfailing]; rfl) (fun _ => id) unrefused
  obtain ⟨old, _, changed⟩ := exact.changed m told
  obtain rfl : old = ada :=
    Option.some.inj (Except.ok.inj (changed.rehashed.before.symm.trans found))
  rw [told] at run
  exact ⟨a, b, m, register, weathered, run, changed⟩

end App

end MemberAuth
