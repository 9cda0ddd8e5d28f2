import MemberAuth.App
import MemberAuth.Proofs.Cache.Residency
import MemberAuth.Proofs.Store.Frame

/-!
# What the calls of the service change

One call at a time: only the two writing store calls change the disk, only evictions change the
cache, and a password change that succeeds is the only call after which a stored member can be
another one.
-/
namespace MemberAuth

namespace Service

/-- What a verification concludes from the look-up. -/
def verdictOn (rules : Rules) (password : String) :
    Except Failure (Option Member) → Except VerifyFailure Identity
  | .error e => .error (.unavailable e.message)
  | .ok none => .error .notFound
  | .ok (some m) =>
    if rules.hasher.verify m.passwordHash password then .ok m.identity else .error .wrongPassword

theorem verify_eq (rules : Rules) (loginId password : String) :
    verify rules loginId password =
      .call (.find loginId) fun found => .done (verdictOn rules password found) := by
  refine congrArg (Script.call _) (funext fun found => ?_)
  rcases found with e | m | m
  · rfl
  · rfl
  · by_cases hv : rules.hasher.verify m.passwordHash password
    · simp only [Script.bind, verdictOn, hv, if_true]
      rfl
    · simp only [Script.bind, verdictOn, hv]
      rfl

/-- A verification ends well if the look-up reports a member whose hash accepts the password. -/
theorem verdictOn_eq_ok {rules : Rules} {password : String} {found : Except Failure (Option Member)}
    {who : Identity} :
    verdictOn rules password found = .ok who ↔ ∃ m, found = .ok (some m) ∧
      rules.hasher.verify m.passwordHash password = true ∧ who = m.identity := by
  rcases found with e | m | m
  · simp [verdictOn]
  · simp [verdictOn]
  rw [verdictOn]
  constructor
  · intro h
    split at h
    · rename_i hv
      exact ⟨m, rfl, hv, (Except.ok.inj h).symm⟩
    · cases h
  · rintro ⟨_, ⟨⟩, hv, rfl⟩
    rw [if_pos hv]

end Service

namespace App

open Service

/-- The stored member of the login id is this one, and its hash accepts the password. -/
def Vouches (a : App) (loginId password : String) (who : Identity) : Prop :=
  ∃ m, a.shelf.find loginId = .ok (some m) ∧
    a.rules.hasher.verify m.passwordHash password = true ∧ who = m.identity

/-- A new application has its store from the disk, and an empty cache. -/
theorem start_eq_ok {settings : Settings} {disk : Disk} {salts : Nat → Hash.Salt}
    {a : App} (h : start settings disk salts = .ok a) :
    ∃ shelf cost, (Store.openOn disk 0).2 = .ok shelf ∧
      settings.hashCost?.filter (·.fits Hash.largestAllocation) = some cost ∧
      a = ⟨settings, ⟨⟨cost⟩, settings.passwordPolicy.characterRule⟩, shelf, .none,
        ⟨newCache settings, .zero⟩, 0, salts, 0⟩ := by
  rw [start] at h
  cases hs : (Store.openOn disk 0).2 with
  | error e =>
    rw [hs] at h
    cases h
  | ok shelf =>
    cases hc : settings.hashCost?.filter (·.fits Hash.largestAllocation) with
    | none =>
      rw [hs, hc] at h
      cases h
    | some cost =>
      rw [hs, hc] at h
      cases h
      exact ⟨shelf, cost, rfl, rfl, rfl⟩

variable (a : App)

theorem onStore_shelf {α : Type} (script : Store.FileScript α) :
    (a.onStore script).1.shelf = (script.run Store.Shelf.perform a.shelf).1 := rfl

@[simp] theorem onStore_find (loginId : String) :
    a.onStore (Store.find loginId) = (a, a.shelf.find loginId) := by
  rw [onStore, Store.Shelf.run_find]

/-- A store call either finds a failure waiting or is carried out. -/
theorem perform_find_cases (loginId : String) :
    (∃ faults e, a.perform (.find loginId) = ({ a with faults }, .error e)) ∨
      a.perform (.find loginId) = (a, a.shelf.find loginId) := by
  rw [perform]
  split
  · exact Or.inl ⟨_, _, rfl⟩
  · exact Or.inr (a.onStore_find loginId)

theorem perform_update_cases (loginId passwordHash : String) :
    (∃ faults e, a.perform (.update loginId passwordHash) = ({ a with faults }, .error e)) ∨
      a.perform (.update loginId passwordHash) = a.onStore (Store.update loginId passwordHash) := by
  rw [perform]
  split
  · exact Or.inl ⟨_, _, rfl⟩
  · exact Or.inr rfl

theorem perform_insert_cases (m : NewMember) :
    (∃ faults e, a.perform (.insert m) = ({ a with faults }, .error e)) ∨
      a.perform (.insert m) = a.onStore (Store.insert m) := by
  rw [perform]
  split
  · exact Or.inl ⟨_, _, rfl⟩
  · exact Or.inr rfl

/-- The settings, the rules, the clock and the salts stay through every call. -/
theorem perform_eq (c : Call) : ∃ shelf faults gate saltCount,
    (a.perform c).1 = { a with shelf, faults, gate, saltCount } := by
  cases c with
  | find loginId =>
    rcases a.perform_find_cases loginId with ⟨_, _, h⟩ | h <;> rw [h] <;> exact ⟨_, _, _, _, rfl⟩
  | insert m =>
    rcases a.perform_insert_cases m with ⟨_, _, h⟩ | h <;> rw [h] <;> exact ⟨_, _, _, _, rfl⟩
  | update loginId passwordHash =>
    rcases a.perform_update_cases loginId passwordHash with ⟨_, _, h⟩ | h <;> rw [h] <;>
      exact ⟨_, _, _, _, rfl⟩
  | salt => exact ⟨_, _, _, _, rfl⟩
  | evict loginId => exact ⟨_, _, _, _, rfl⟩
  | count k => exact ⟨_, _, _, _, rfl⟩

theorem perform_rules (c : Call) : (a.perform c).1.rules = a.rules := by
  obtain ⟨_, _, _, _, h⟩ := a.perform_eq c
  rw [h]

theorem perform_salts (c : Call) : (a.perform c).1.salts = a.salts := by
  obtain ⟨_, _, _, _, h⟩ := a.perform_eq c
  rw [h]

/-- Only evictions touch the cache. -/
theorem perform_cache {c : Call} (hc : ∀ loginId, c ≠ .evict loginId) :
    (a.perform c).1.gate.cache = a.gate.cache := by
  cases c with
  | find loginId =>
    rcases a.perform_find_cases loginId with ⟨_, _, h⟩ | h <;> rw [h]
  | insert m =>
    rcases a.perform_insert_cases m with ⟨_, _, h⟩ | h <;> rw [h]
    rfl
  | update loginId passwordHash =>
    rcases a.perform_update_cases loginId passwordHash with ⟨_, _, h⟩ | h <;> rw [h]
    rfl
  | salt => rfl
  | evict loginId => exact False.elim (hc loginId rfl)
  | count k => rfl

theorem perform_evict_cache (loginId : String) :
    (a.perform (.evict loginId)).1.gate.cache = (a.gate.cache.evict loginId).1 :=
  a.gate.cache_evict loginId

/-- A member that a look-up reports is stored. -/
theorem find_of_perform_find {loginId : String} {m : Member}
    (h : (a.perform (.find loginId)).2 = .ok (some m)) :
    a.shelf.find loginId = .ok (some m) := by
  rcases a.perform_find_cases loginId with ⟨_, _, hp⟩ | hp
  · rw [hp] at h
    cases h
  · rwa [hp] at h

/-- A stored member stays as it is under every call but a successful change of its password. -/
theorem find_of_perform {c : Call} {loginId : String} {m : Member}
    (stored : a.shelf.find loginId = .ok (some m))
    (spared : ∀ passwordHash, c = .update loginId passwordHash →
      ∃ e, (a.perform (.update loginId passwordHash)).2 = .error e) :
    (a.perform c).1.shelf.find loginId = .ok (some m) := by
  cases c with
  | find other =>
    rcases a.perform_find_cases other with ⟨_, _, h⟩ | h <;> rw [h] <;> exact stored
  | insert new =>
    rcases a.perform_insert_cases new with ⟨_, _, h⟩ | h
    · rw [h]
      exact stored
    · rw [h, onStore_shelf]
      exact Store.Shelf.find_of_spares (Store.spares_insert loginId new) stored
  | update other passwordHash =>
    rcases a.perform_update_cases other passwordHash with ⟨_, _, h⟩ | h
    · rw [h]
      exact stored
    rw [h, onStore_shelf]
    by_cases hne : loginId = other
    · subst other
      obtain ⟨e, he⟩ := spared passwordHash rfl
      rw [h] at he
      exact Store.Shelf.find_of_update_error stored he
    · exact Store.Shelf.find_of_spares (Store.spares_update hne passwordHash) stored
  | salt => exact stored
  | evict other => exact stored
  | count k => exact stored

/-- A password change that succeeds finds the member, and leaves it with the new hash. -/
theorem find_of_perform_update {loginId passwordHash : String}
    (changed : (a.perform (.update loginId passwordHash)).2 = .ok ()) :
    ∃ m, a.shelf.find loginId = .ok (some m) ∧
      (a.perform (.update loginId passwordHash)).1.shelf.find loginId =
        .ok (some { m with passwordHash }) := by
  rcases a.perform_update_cases loginId passwordHash with ⟨_, _, h⟩ | h
  · rw [h] at changed
    cases changed
  · rw [h] at changed ⊢
    rw [onStore_shelf]
    exact Store.Shelf.find_of_update_ok changed

section Unfailing

variable {a}

/-- Without a failure waiting, none comes to wait. -/
theorem perform_faults (h : a.faults = .none) (c : Call) : (a.perform c).1.faults = .none := by
  cases c with
  | find loginId => simp [perform, h, Faults.none]
  | insert m => simp [perform, h, Faults.none, onStore]
  | update loginId passwordHash => simp [perform, h, Faults.none, onStore]
  | salt => exact h
  | evict loginId => exact h
  | count k => exact h

theorem perform_find (h : a.faults = .none) (loginId : String) :
    a.perform (.find loginId) = (a, a.shelf.find loginId) := by
  simp [perform, h, Faults.none]

theorem perform_insert (h : a.faults = .none) (m : NewMember) :
    a.perform (.insert m) = a.onStore (Store.insert m) := by
  simp [perform, h, Faults.none]

theorem perform_update (h : a.faults = .none) (loginId passwordHash : String) :
    a.perform (.update loginId passwordHash) = a.onStore (Store.update loginId passwordHash) := by
  simp [perform, h, Faults.none]

theorem serve_faults {α : Type} (h : a.faults = .none) (script : ServiceScript α) :
    (a.serve script).1.faults = .none := by
  induction script generalizing a with
  | done result => exact h
  | call c next ih => exact ih _ (perform_faults h c)

theorem verify_eq_verdictOn (h : a.faults = .none) (loginId password : String) :
    a.verify loginId password = (a, verdictOn a.rules password (a.shelf.find loginId)) := by
  rw [verify, verify_eq, serve, Script.run, perform_find h]
  rfl

/-- Looking up changes nothing. -/
theorem getMember_app (h : a.faults = .none) (loginId : String) :
    (a.getMember loginId).1 = a := by
  rw [getMember, Service.getMember, serve, Script.run_bind, ServiceScript.find, Script.run_ask,
    perform_find h]
  rcases a.shelf.find loginId with e | m | m <;> rfl

/-- A decision leaves all but the gate as it is. -/
theorem authenticate_app (h : a.faults = .none) (loginId password : String) :
    ∃ gate, (a.authenticate loginId password).1 = { a with gate } := by
  rw [authenticate]
  generalize a.gate.openRequest a.now loginId password = opened
  obtain ⟨gate, result | epoch⟩ := opened
  · exact ⟨gate, rfl⟩
  · have asked := verify_eq_verdictOn (a := { a with gate }) h loginId password
    simp only [asked]
    exact ⟨_, rfl⟩

end Unfailing

end App

end MemberAuth
