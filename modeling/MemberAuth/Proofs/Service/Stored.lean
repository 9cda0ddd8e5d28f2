import MemberAuth.Proofs.Auth.Freshness
import MemberAuth.Proofs.Service.Checks
import MemberAuth.Proofs.Store.Persistence

/-!
# What is stored while requests go side by side

From a store that holds the members of a map, whatever decisions, registrations and password changes
run side by side, the store goes on holding the members of a map. A member keeps all but its hash,
every hash that is stored was made for its owner, and whoever is in the cache under a login id has
that login id.
-/
namespace MemberAuth

namespace Store.Roster

/-- The map after a call of the service. -/
def after (r : Roster) : Service.Call → Roster
  | .insert m => (r.insert m).1
  | .update loginId passwordHash => (r.update loginId passwordHash).1
  | _ => r

/-- A member that was read is still there, though perhaps with another hash. -/
def Knows (r : Roster) (known : Option Member) : Prop :=
  ∀ m, known = some m → ∃ passwordHash, r.members[m.loginId]? = some { m with passwordHash }

theorem knows_none (r : Roster) : r.Knows none := by
  intro m h
  cases h

theorem members_after {r : Roster} {loginId : String} {m : Member}
    (h : r.members[loginId]? = some m) (c : Service.Call) : ∃ passwordHash,
      (r.after c).members[loginId]? = some { m with passwordHash } := by
  cases c with
  | insert new => exact ⟨m.passwordHash, members_insert h new⟩
  | update key new => exact members_update h key new
  | find other => exact ⟨m.passwordHash, h⟩
  | salt => exact ⟨m.passwordHash, h⟩
  | evict other => exact ⟨m.passwordHash, h⟩
  | count k => exact ⟨m.passwordHash, h⟩

theorem Knows.after {r : Roster} {known : Option Member} (h : r.Knows known) (c : Service.Call) :
    (r.after c).Knows known := by
  intro m hm
  obtain ⟨_, there⟩ := h m hm
  exact members_after there c

end Store.Roster

namespace App

open Store Service

variable {a : App} {r : Roster}

/-- A call does to the store what it does to the map. -/
theorem keeps_perform (unfailing : a.faults = .none) (h : a.shelf.Keeps r) (c : Call) :
    (a.perform c).1.shelf.Keeps (r.after c) := by
  cases c with
  | find loginId =>
    rw [perform_find unfailing]
    exact h
  | insert m =>
    rw [perform_insert unfailing, onStore_shelf]
    exact (h.insert m).2
  | update loginId passwordHash =>
    rw [perform_update unfailing, onStore_shelf]
    exact (h.update loginId passwordHash).2
  | salt => exact h
  | evict loginId => exact h
  | count k => exact h

theorem reply_find (unfailing : a.faults = .none) (h : a.shelf.Keeps r) (loginId : String) :
    (a.perform (.find loginId)).2 = .ok r.members[loginId]? := by
  rw [perform_find unfailing]
  exact h.find loginId

theorem reply_update (unfailing : a.faults = .none) (h : a.shelf.Keeps r)
    (loginId passwordHash : String) :
    (a.perform (.update loginId passwordHash)).2 = (r.update loginId passwordHash).2 := by
  rw [perform_update unfailing]
  exact (h.update loginId passwordHash).1

end App

namespace Interleaving

open Store Service

/-- What a script stores, up to results of a certain kind: a hash is stored only if it is allowed
for the birth date of its owner, and for a member that has been read. -/
inductive Stores (allowed : Date → String → Prop) {α : Type} (ends : α → Prop) :
    Option Member → ServiceScript α → Prop
  | done {known result} (h : ends result) : Stores allowed ends known (.done result)
  | find {known loginId next} (failed : ∀ e, Stores allowed ends known (next (.error e)))
    (absent : Stores allowed ends known (next (.ok none)))
    (present : ∀ m : Member, m.loginId = loginId →
      Stores allowed ends (some m) (next (.ok (some m)))) :
    Stores allowed ends known (.call (.find loginId) next)
  | insert {known m next} (made : allowed m.birthDate m.passwordHash)
    (later : ∀ reply, Stores allowed ends known (next reply)) :
    Stores allowed ends known (.call (.insert m) next)
  | update {m passwordHash next} (made : allowed m.birthDate passwordHash)
    (later : ∀ reply, Stores allowed ends (some m) (next reply)) :
    Stores allowed ends (some m) (.call (.update m.loginId passwordHash) next)
  | other {known c next} (reads : ∀ loginId, c ≠ .find loginId) (inserts : ∀ m, c ≠ .insert m)
    (updates : ∀ loginId passwordHash, c ≠ .update loginId passwordHash)
    (later : ∀ reply, Stores allowed ends known (next reply)) :
    Stores allowed ends known (.call c next)

/-- The hashes that registrations and password changes make are allowed. -/
def Issues (rules : Rules) (allowed : Date → String → Prop) : Prop :=
  ∀ birthDate password salt, Policy.validate rules.characterRule birthDate password = .ok () →
    allowed birthDate (rules.hasher.hash salt password)

section Scripts

variable {rules : Rules} {allowed : Date → String → Prop}

theorem stores_verify (allowed : Date → String → Prop) (rules : Rules) (loginId password : String) :
    Stores allowed (fun verdict => ∀ who, verdict = .ok who → who.loginId = loginId) none
      (verify rules loginId password) := by
  rw [verify_eq]
  refine .find (fun e => .done ?_) (.done ?_) fun m own => .done ?_
  · intro who good
    cases good
  · intro who good
    cases good
  · intro who good
    obtain ⟨_, same, _, rfl⟩ := verdictOn_eq_ok.mp good
    cases same
    exact own

theorem stores_register (issues : Issues rules allowed) (r : Registration) :
    Stores allowed (fun _ => True) none (register rules r) := by
  rw [register]
  cases check : checkRegistration rules r with
  | error e => exact .done trivial
  | ok admission =>
    have valid := (checkRegistration_eq_ok.mp check).2.2.2
    refine .other (by simp) (by simp) (by simp) fun salt => ?_
    refine .insert (issues r.birthDate r.password salt valid) fun inserted => ?_
    cases inserted with
    | error e => exact .done trivial
    | ok m => exact .other (by simp) (by simp) (by simp) fun _ => .done trivial

theorem stores_changePassword (issues : Issues rules allowed) (loginId current new : String) :
    Stores allowed (fun _ => True) none (changePassword rules loginId current new) := by
  refine .find (fun e => .done trivial) (.done trivial) fun m own => ?_
  subst own
  cases check : checkChange rules m current new with
  | error e =>
    simp only [Script.bind, check]
    exact .done trivial
  | ok u =>
    have valid := (checkChange_eq_ok.mp check).2.2
    simp only [Script.bind, check]
    refine .other (by simp) (by simp) (by simp) fun salt => ?_
    refine .update (issues m.birthDate new salt valid) fun updated => ?_
    cases updated with
    | error e => exact .done trivial
    | ok u =>
      refine .other (by simp) (by simp) (by simp) fun _ => ?_
      exact .other (by simp) (by simp) (by simp) fun _ => .done trivial

end Scripts

/-- What a request may still store, and who its verdict is about. -/
def Task.Stores (allowed : Date → String → Prop) (r : Roster) : Task → Prop
  | .verifying loginId _ _ rest => ∃ known, r.Knows known ∧
    Interleaving.Stores allowed (fun verdict => ∀ who, verdict = .ok who → who.loginId = loginId)
      known rest
  | .serving _ rest => ∃ known, r.Knows known ∧
    Interleaving.Stores allowed (fun _ => True) known rest
  | _ => True

/-- The store holds the members of a map, with hashes that are allowed, and goes on doing so; and
cached identities go by the login id that they are cached under. -/
structure Orderly (rules : Rules) (allowed : Date → String → Prop) (w : World) (r : Roster) : Prop
    where
  unfailing : w.app.faults = .none
  issues : Issues rules allowed
  rules : w.app.rules = rules
  keeps : w.app.shelf.Keeps r
  admits : ∀ (loginId : String) (m : Member), r.members[loginId]? = some m →
    allowed m.birthDate m.passwordHash
  tasks : ∀ t ∈ w.tasks, t.Stores allowed r
  entries : ∀ (loginId : String) (slot : Slot), w.app.gate.cache.slots[loginId]? = some slot →
    slot.credential.identity.loginId = loginId

variable {rules : Rules} {allowed : Date → String → Prop} {r : Roster}

theorem Task.Stores.after {t : Task} (h : t.Stores allowed r) (c : Call) :
    t.Stores allowed (r.after c) := by
  cases t with
  | deciding loginId password => trivial
  | decided loginId password result => trivial
  | verifying loginId password epoch rest =>
    obtain ⟨known, knows, stores⟩ := h
    exact ⟨known, knows.after c, stores⟩
  | serving loginId rest =>
    obtain ⟨known, knows, stores⟩ := h
    exact ⟨known, knows.after c, stores⟩

section Calls

variable {α : Type} {ends : α → Prop} {a : App} {known : Option Member}

/-- After a call, the rest of the script stores what it may. -/
theorem Stores.perform {c : Call} {next : c.Reply → ServiceScript α}
    (h : Stores allowed ends known (.call c next)) (unfailing : a.faults = .none)
    (keeps : a.shelf.Keeps r) (knows : r.Knows known) :
    ∃ known', (r.after c).Knows known' ∧
      Stores allowed ends known' (next (a.perform c).2) := by
  cases h with
  | find failed absent present =>
    rename_i loginId next
    rw [App.reply_find unfailing keeps]
    cases found : r.members[loginId]? with
    | none => exact ⟨known, knows, absent⟩
    | some m =>
      obtain ⟨rfl, _⟩ := keeps.own loginId m found
      refine ⟨some m, fun n hn => ?_, present m rfl⟩
      cases hn
      exact ⟨m.passwordHash, found⟩
  | insert made later => exact ⟨known, knows.after _, later _⟩
  | update made later => exact ⟨_, knows.after _, later _⟩
  | other reads inserts updates later => exact ⟨known, knows.after _, later _⟩

/-- After a call, all hashes that are stored are allowed. -/
theorem Stores.admits {c : Call} {next : c.Reply → ServiceScript α}
    (h : Stores allowed ends known (.call c next)) (knows : r.Knows known)
    (admits : ∀ (loginId : String) (m : Member), r.members[loginId]? = some m →
      allowed m.birthDate m.passwordHash) {loginId : String} {m : Member}
    (hm : (r.after c).members[loginId]? = some m) : allowed m.birthDate m.passwordHash := by
  cases h with
  | find => exact admits loginId m hm
  | insert made later =>
    rename_i new next
    rw [Roster.after, Roster.insert] at hm
    split at hm
    · exact admits loginId m hm
    split at hm
    · exact admits loginId m hm
    rw [Roster.getElem?_insert] at hm
    split at hm
    · cases hm
      exact made
    · exact admits loginId m hm
  | update made later =>
    rename_i old passwordHash next
    obtain ⟨_, there⟩ := knows old rfl
    rw [Roster.after, Roster.update, there] at hm
    dsimp only at hm
    rw [Roster.getElem?_insert] at hm
    split at hm
    · cases hm
      exact made
    · exact admits loginId m hm
  | other reads inserts updates =>
    have same : r.after c = r := by
      cases c with
      | insert new => exact absurd rfl (inserts new)
      | update key new => exact absurd rfl (updates key new)
      | find key => rfl
      | salt => rfl
      | evict key => rfl
      | count k => rfl
    rw [same] at hm
    exact admits loginId m hm

end Calls

namespace Orderly

variable {a : App} {before after : List Task}

/-- One call of a request, which goes on as the reply says. -/
theorem call {α : Type} {ends : α → Prop} {known : Option Member} {c : Call}
    {next : c.Reply → ServiceScript α} {t t' : Task}
    (h : Orderly rules allowed ⟨a, before ++ t :: after⟩ r)
    (knows : r.Knows known) (stores : Stores allowed ends known (.call c next))
    (goes : ∀ known', (r.after c).Knows known' →
      Stores allowed ends known' (next (a.perform c).2) → t'.Stores allowed (r.after c)) :
    Orderly rules allowed ⟨(a.perform c).1, before ++ t' :: after⟩ (r.after c) := by
  refine ⟨App.perform_faults h.unfailing c, h.issues, (App.perform_rules a c).trans h.rules,
    App.keeps_perform h.unfailing h.keeps c,
    fun loginId m hm => stores.admits knows h.admits hm, fun u hu => ?_,
    fun loginId slot resident => ?_⟩
  · rcases mem_of_mem_turn (t := t) hu with old | rfl
    · exact (h.tasks u old).after c
    · obtain ⟨known', knows', stores'⟩ := stores.perform h.unfailing h.keeps knows
      exact goes known' knows' stores'
  · by_cases evicts : ∃ key, c = .evict key
    · obtain ⟨key, rfl⟩ := evicts
      rw [App.perform_evict_cache] at resident
      exact h.entries loginId slot (Cache.evict_entry resident).2
    · rw [App.perform_cache a fun key hk => evicts ⟨key, hk⟩] at resident
      exact h.entries loginId slot resident

/-- A step of a request that concerns the gate only. -/
theorem regate {t t' : Task} {gate : Gate} (h : Orderly rules allowed ⟨a, before ++ t :: after⟩ r)
    (goes : t'.Stores allowed r)
    (entries : ∀ (loginId : String) (slot : Slot), gate.cache.slots[loginId]? = some slot →
      a.gate.cache.slots[loginId]? = some slot ∨ slot.credential.identity.loginId = loginId) :
    Orderly rules allowed ⟨{ a with gate }, before ++ t' :: after⟩ r := by
  refine ⟨h.unfailing, h.issues, h.rules, h.keeps, h.admits, fun u hu => ?_,
    fun loginId slot resident => ?_⟩
  · rcases mem_of_mem_turn (t := t) hu with old | rfl
    · exact h.tasks u old
    · exact goes
  · rcases entries loginId slot resident with old | new
    · exact h.entries loginId slot old
    · exact new

theorem turn {t : Task} (h : Orderly rules allowed ⟨a, before ++ t :: after⟩ r) :
    ∃ r', Orderly rules allowed ⟨(t.turn a).1, before ++ (t.turn a).2 :: after⟩ r' := by
  have mine := h.tasks t (by simp)
  match t with
  | .deciding loginId password =>
    have pruned := a.gate.prunes_openRequest a.now loginId password
    rw [Task.turn]
    generalize a.gate.openRequest a.now loginId password = opened at pruned
    obtain ⟨gate, result | epoch⟩ := opened
    · exact ⟨r, h.regate trivial fun _ _ resident => Or.inl (pruned.entries resident)⟩
    · exact ⟨r, h.regate ⟨none, r.knows_none, stores_verify allowed a.rules loginId password⟩
        fun _ _ resident => Or.inl (pruned.entries resident)⟩
  | .verifying loginId password epoch (.call c next) =>
    obtain ⟨known, knows, stores⟩ := mine
    exact ⟨_, h.call knows stores fun known' knows' stores' => ⟨known', knows', stores'⟩⟩
  | .verifying loginId password epoch (.done verdict) =>
    obtain ⟨known, knows, stores⟩ := mine
    refine ⟨r, h.regate trivial fun key slot resident => ?_⟩
    rcases Gate.closeRequest_entry resident with old | ⟨who, good, rfl, _, rfl⟩
    · exact Or.inl old
    · cases stores with
      | done own => exact Or.inr (own who good)
  | .decided loginId password result => exact ⟨r, h⟩
  | .serving loginId (.call c next) =>
    obtain ⟨known, knows, stores⟩ := mine
    exact ⟨_, h.call knows stores fun known' knows' stores' => ⟨known', knows', stores'⟩⟩
  | .serving loginId (.done result) => exact ⟨r, h⟩

/-- A request that arrives. -/
theorem arrive {w : World} {t : Task} (h : Orderly rules allowed w r)
    (stores : t.Stores allowed r) :
    Orderly rules allowed ⟨w.app, w.tasks ++ [t]⟩ r := by
  refine ⟨h.unfailing, h.issues, h.rules, h.keeps, h.admits, fun u hu => ?_, h.entries⟩
  rcases List.mem_append.mp hu with old | new
  · exact h.tasks u old
  · rw [List.mem_singleton.mp new]
    exact stores

end Orderly

theorem orderly_start {settings : Settings} {salts : Nat → Hash.Salt} {a : App}
    (started : App.start settings Disk.empty salts = .ok a) {allowed : Date → String → Prop}
    (issues : Issues a.rules allowed) : Orderly a.rules allowed ⟨a, []⟩ Roster.empty := by
  obtain ⟨shelf, cost, opened, _, rfl⟩ := App.start_eq_ok started
  refine ⟨rfl, issues, rfl, Shelf.keeps_empty opened, ?_, ?_, ?_⟩
  · simp [Roster.empty]
  · simp
  · simp [App.newCache, Cache.new]

theorem orderly_step {w w' : World} {event : Option Event} (h : Orderly rules allowed w r)
    (step : w.Step event w') : ∃ r', Orderly rules allowed w' r' := by
  cases step with
  | authenticate _ loginId password =>
    exact ⟨r, h.arrive (t := .deciding loginId password) trivial⟩
  | change _ loginId current new =>
    have stores := stores_changePassword h.issues loginId current new
    rw [← h.rules] at stores
    exact ⟨r, h.arrive (t := .serving loginId _) ⟨none, r.knows_none, stores⟩⟩
  | register _ registration =>
    have stores := stores_register h.issues registration
    rw [← h.rules] at stores
    exact ⟨r, h.arrive (t := .serving registration.loginId _) ⟨none, r.knows_none, stores⟩⟩
  | turn a before after t => exact h.turn
  | advance _ duration =>
    exact ⟨r, h.unfailing, h.issues, h.rules, h.keeps, h.admits, h.tasks, h.entries⟩
  | purge =>
    have pruned := w.app.gate.cache.prunes_purge w.app.now
    rw [← Gate.cache_purge] at pruned
    exact ⟨r, h.unfailing, h.issues, h.rules, h.keeps, h.admits, h.tasks,
      fun loginId slot resident => h.entries loginId slot (pruned.entries resident)⟩

theorem orderly_of_reaches {w w' : World} (h : Orderly rules allowed w r) (run : w.Reaches w') :
    ∃ r', Orderly rules allowed w' r' := by
  induction run with
  | refl => exact ⟨r, h⟩
  | tail _ step ih =>
    obtain ⟨r', before⟩ := ih
    obtain ⟨event, step⟩ := step
    exact orderly_step before step

end Interleaving

end MemberAuth
