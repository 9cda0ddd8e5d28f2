import MemberAuth.Proofs.Auth.Grounds
import MemberAuth.Proofs.Auth.Interleaving
import MemberAuth.Proofs.Service.Calls

/-!
# Cached credentials are never older than the stored hash

Whatever decisions and password changes run side by side, the decision that wrote a resident entry
has verified its password against the very hash that is stored now, unless a change of that member
stands between its update and its eviction. Three facts carry each other through every step: no
snapshot of the epoch is ahead of the cache; a verification that ended well in the present epoch
has seen the hash that is stored; and so have the decisions behind the entries.
-/
namespace MemberAuth

namespace Interleaving

open Service

/-- Updates and evictions are of the one member only, and the eviction comes right after an update
that succeeds. -/
inductive Invalidates (loginId : String) {α : Type} : ServiceScript α → Prop
  | done (result : α) : Invalidates loginId (.done result)
  | call (c : Call) (next : c.Reply → ServiceScript α)
    (keeps : ∀ other passwordHash, c ≠ .update other passwordHash)
    (own : ∀ key, c = .evict key → key = loginId)
    (later : ∀ r, Invalidates loginId (next r)) : Invalidates loginId (.call c next)
  | update (passwordHash : String)
    (next : (Call.update loginId passwordHash).Reply → ServiceScript α)
    (evicts : ∃ k, next (.ok ()) = .call (.evict loginId) k)
    (later : ∀ r, Invalidates loginId (next r)) :
    Invalidates loginId (.call (.update loginId passwordHash) next)

theorem invalidates_changePassword (rules : Rules) (loginId current new : String) :
    Invalidates loginId (changePassword rules loginId current new) := by
  refine .call (.find loginId) _ (by simp) (by simp) fun found => ?_
  rcases found with e | m | m
  · exact .done _
  · exact .done _
  cases hc : checkChange rules m current new with
  | error e =>
    simp only [Script.bind, hc]
    exact .done _
  | ok u =>
    simp only [Script.bind, hc]
    refine .call .salt _ (by simp) (by simp) fun salt => ?_
    refine .update (rules.hasher.hash salt new) _ ⟨_, rfl⟩ fun updated => ?_
    cases updated with
    | error e => exact .done _
    | ok u =>
      refine .call (.evict loginId) _ (by simp) (by simp) fun _ => ?_
      exact .call (.count .passwordChanged) _ (by simp) (by simp) fun _ => .done _

theorem invalidates_register (rules : Rules) (r : Registration) (loginId : String) :
    Invalidates loginId (register rules r) := by
  rw [register]
  cases checkRegistration rules r with
  | error e => exact .done _
  | ok admission =>
    refine .call .salt _ (by simp) (by simp) fun salt => ?_
    refine .call (.insert _) _ (by simp) (by simp) fun inserted => ?_
    cases inserted with
    | error e => exact .done _
    | ok m => exact .call (.count .memberRegistered) _ (by simp) (by simp) fun _ => .done _

/-- A decision is known by its place among the requests, and comes with its password. -/
structure Decision where
  place : Nat
  password : String

section View

variable (w : World) (log : List Event) (d : Decision) (loginId : String)

/-- The decision has verified its password against this hash, and the member's hash was not replaced
since. -/
def UpToDate (passwordHash : String) : Prop :=
  ∃ later earlier, log = later ++ .accepted d.place passwordHash :: earlier ∧
    .replaced loginId ∉ later

/-- The decision has let someone in with its password, and this is the slot that it wrote. -/
def Made (slot : Slot) : Prop :=
  w.tasks[d.place]? = some (.decided loginId d.password (.ok slot.credential.identity)) ∧
    slot.credential.digest = passwordDigest d.password ∧ .cached d.place slot.generation ∈ log

/-- The stored hash accepts the password, and the decision has verified it against that very hash.
-/
def Grounds (who : Identity) : Prop :=
  ∃ m, w.app.shelf.find loginId = .ok (some m) ∧
    w.app.rules.hasher.verify m.passwordHash d.password = true ∧ who = m.identity ∧
    UpToDate log d loginId m.passwordHash

def World.view : View Decision where
  cache := w.app.gate.cache
  settled := w.Settled
  made := Made w log
  grounds := Grounds w log

/-- The decision that wrote the slot has verified its password against the very hash that is stored
now. -/
def Backed (slot : Slot) : Prop :=
  (w.view log).Backed loginId slot

variable {w log d loginId}

theorem UpToDate.logged {passwordHash : String} {event : Option Event}
    (h : UpToDate log d loginId passwordHash) (kept : event ≠ some (.replaced loginId)) :
    UpToDate (event.toList ++ log) d loginId passwordHash := by
  obtain ⟨later, earlier, rfl, none⟩ := h
  refine ⟨event.toList ++ later, earlier, (List.append_assoc ..).symm, fun mem => ?_⟩
  rcases List.mem_append.mp mem with new | old
  · exact kept (Option.mem_toList.mp new)
  · exact none old

end View

/-- What holds of the request at a place at each point. -/
def Sound (w : World) (log : List Event) (place : Nat) : Task → Prop
  | .verifying loginId password epoch rest =>
    epoch ≤ w.app.gate.cache.epoch ∧
      (rest = verify w.app.rules loginId password ∨ ∃ verdict, rest = .done verdict ∧
        (w.view log).Holds ⟨place, password⟩ loginId epoch verdict)
  | .serving loginId rest => Invalidates loginId rest
  | _ => True

structure Fresh (w : World) (log : List Event) : Prop where
  tasks : ∀ (place : Nat) (t : Task), w.tasks[place]? = some t → Sound w log place t
  founded : (w.view log).Founded

section Advance

variable {w w' : World} {log log' : List Event}

theorem Sound.advance {place : Nat} {t : Task} (h : Sound w log place t)
    (rules : w'.app.rules = w.app.rules) (adv : (w.view log).Advances (w'.view log')) :
    Sound w' log' place t := by
  cases t with
  | deciding loginId password => trivial
  | decided loginId password result => trivial
  | serving loginId rest => exact h
  | verifying loginId password epoch rest =>
    obtain ⟨behind, place⟩ := h
    refine ⟨Nat.le_trans behind adv.epoch, ?_⟩
    rcases place with asking | ⟨verdict, told, holds⟩
    · exact Or.inl (asking.trans (by rw [rules]))
    · exact Or.inr ⟨verdict, told, holds.advance adv behind⟩

theorem Fresh.advance (fresh : Fresh w log) (rules : w'.app.rules = w.app.rules)
    (adv : (w.view log).Advances (w'.view log'))
    (tasks : ∀ (place : Nat) (t : Task), w'.tasks[place]? = some t →
      w.tasks[place]? = some t ∨ Sound w' log' place t)
    (entries : ∀ (loginId : String) (slot : Slot),
      w'.app.gate.cache.slots[loginId]? = some slot → w'.Settled loginId →
      (w.app.gate.cache.slots[loginId]? = some slot ∧ w.Settled loginId) ∨
        Backed w' log' loginId slot) : Fresh w' log' := by
  refine ⟨fun place t there => ?_, fresh.founded.advance adv entries⟩
  rcases tasks place t there with old | sound
  · exact (fresh.tasks place t old).advance rules adv
  · exact sound

/-- A step in which nobody turns and only entries are dropped. -/
theorem Fresh.quiet (fresh : Fresh w log) (rules : w'.app.rules = w.app.rules)
    (shelf : w'.app.shelf = w.app.shelf) (tasks : w'.tasks = w.tasks)
    (pruned : w.app.gate.cache.Prunes w'.app.gate.cache) : Fresh w' log := by
  have settled (loginId : String) (h : w'.Settled loginId) : w.Settled loginId := by
    rwa [World.Settled, tasks] at h
  have adv : (w.view log).Advances (w'.view log) := by
    refine ⟨Nat.le_of_eq pruned.epoch.symm, fun loginId h => Or.inl (settled loginId h), ?_, ?_⟩
    · rintro d loginId slot ⟨there, digest, cached⟩
      exact ⟨by rwa [tasks], digest, cached⟩
    · rintro d loginId who _ ⟨m, stored, accepts, own, current⟩
      exact ⟨m, by rwa [shelf], by rwa [rules], own, current⟩
  refine fresh.advance rules adv (fun place t there => Or.inl (by rwa [tasks] at there))
    fun loginId slot resident h => Or.inl ⟨pruned.entries resident, settled loginId h⟩

end Advance

section Turn

variable {a a' : App} {before after : List Task} {t t' : Task} {log : List Event}

theorem Fresh.present (fresh : Fresh ⟨a, before ++ t :: after⟩ log) :
    Sound ⟨a, before ++ t :: after⟩ log before.length t :=
  fresh.tasks _ _ (by simp)

/-- Another request in the place of one that awaits no eviction of the member. -/
theorem settled_of_turn {loginId : String} (calm : ¬ t.AwaitsEviction loginId)
    (h : World.Settled ⟨a', before ++ t' :: after⟩ loginId) :
    World.Settled ⟨a, before ++ t :: after⟩ loginId := by
  intro u hu
  rcases mem_of_mem_turn (t := t') hu with hu | rfl
  · exact h u hu
  · exact calm

/-- What a request has to respect when it goes on from `t` to `t'`. -/
theorem Fresh.turn (fresh : Fresh ⟨a, before ++ t :: after⟩ log) (event : Option Event)
    (rules : a'.rules = a.rules) (epoch : a.gate.cache.epoch ≤ a'.gate.cache.epoch)
    (awaited : ∀ loginId, t.AwaitsEviction loginId →
      a.gate.cache.epoch < a'.gate.cache.epoch ∧ a'.gate.cache.slots[loginId]? = none)
    (stored : ∀ loginId m, ¬ t'.AwaitsEviction loginId → a.shelf.find loginId = .ok (some m) →
      a'.shelf.find loginId = .ok (some m))
    (kept : ∀ loginId, ¬ t'.AwaitsEviction loginId → event ≠ some (.replaced loginId))
    (undecided : ∀ loginId password result, t ≠ .decided loginId password result)
    (sound : Sound ⟨a', before ++ t' :: after⟩ (event.toList ++ log) before.length t')
    (entries : ∀ (loginId : String) (slot : Slot), a'.gate.cache.slots[loginId]? = some slot →
      World.Settled ⟨a, before ++ t :: after⟩ loginId →
      a.gate.cache.slots[loginId]? = some slot ∨
        Backed ⟨a', before ++ t' :: after⟩ (event.toList ++ log) loginId slot) :
    Fresh ⟨a', before ++ t' :: after⟩ (event.toList ++ log) := by
  have adv : (World.view ⟨a, before ++ t :: after⟩ log).Advances
      (World.view ⟨a', before ++ t' :: after⟩ (event.toList ++ log)) := by
    refine ⟨epoch, fun loginId settled => ?settled, ?made, ?grounds⟩
    case settled =>
      by_cases waits : t.AwaitsEviction loginId
      · exact Or.inr (awaited loginId waits).1
      · exact Or.inl (settled_of_turn waits settled)
    case made =>
      rintro d loginId slot ⟨there, digest, cached⟩
      refine ⟨?_, digest, List.mem_append_right _ cached⟩
      rcases getElem?_of_turn t' there with ⟨_, same⟩ | there
      · exact absurd same.symm (undecided loginId d.password _)
      · exact there
    case grounds =>
      rintro d loginId who settled ⟨m, held, accepts, own, current⟩
      have calm : ¬ t'.AwaitsEviction loginId := settled t' (by simp)
      have current := current.logged (kept loginId calm)
      exact ⟨m, stored loginId m calm held, rules ▸ accepts, own, current⟩
  refine fresh.advance rules adv (fun place u there => ?_) (fun loginId slot resident settled => ?_)
  · rcases getElem?_of_turn t there with ⟨rfl, rfl⟩ | old
    · exact Or.inr sound
    · exact Or.inl old
  · have calm : ¬ t.AwaitsEviction loginId := by
      intro waits
      rw [(awaited loginId waits).2] at resident
      cases resident
    have before := settled_of_turn (a := a) calm settled
    rcases entries loginId slot resident before with old | new
    · exact Or.inl ⟨old, before⟩
    · exact Or.inr new

/-- The first step of a decision only drops entries, and its snapshot is the present epoch. -/
theorem fresh_opened {loginId password : String}
    (fresh : Fresh ⟨a, before ++ .deciding loginId password :: after⟩ log) :
    Fresh ⟨(Task.turn a (.deciding loginId password)).1,
      before ++ (Task.turn a (.deciding loginId password)).2 :: after⟩ log := by
  have pruned := a.gate.prunes_openRequest a.now loginId password
  rw [Task.turn]
  generalize ho : a.gate.openRequest a.now loginId password = opened at pruned
  obtain ⟨gate, opening⟩ := opened
  have goes {t' : Task}
      (sound : Sound ⟨{ a with gate }, before ++ t' :: after⟩ log before.length t') :
      Fresh ⟨{ a with gate }, before ++ t' :: after⟩ log :=
    fresh.turn none rfl (Nat.le_of_eq pruned.epoch.symm) (fun _ waits => waits.elim)
      (fun _ _ _ held => held) (by simp) (by simp) sound
      (fun _ _ resident _ => Or.inl (pruned.entries resident))
  cases opening with
  | decided result => exact goes trivial
  | pending epoch =>
    have snapshot : epoch ≤ gate.cache.epoch := by
      rw [a.gate.openRequest_epoch ho]
      exact Nat.le_of_eq pruned.epoch.symm
    exact goes ⟨snapshot, Or.inl rfl⟩

/-- What a verification has read is what is stored, and a hash that accepts is logged. -/
theorem event_asked {loginId password : String} {epoch place : Nat} {m : Member}
    {next : (Call.find loginId).Reply → ServiceScript (Except VerifyFailure Identity)}
    (told : (a.perform (.find loginId)).2 = .ok (some m))
    (accepts : a.rules.hasher.verify m.passwordHash password = true) :
    Task.event a place (.verifying loginId password epoch (.call (.find loginId) next)) =
      some (.accepted place m.passwordHash) := by
  rw [Task.event, told]
  exact if_pos accepts

/-- The look-up of a verification leaves everything as it is and brings the verdict. -/
theorem fresh_asked {loginId password : String} {epoch : Nat}
    (behind : epoch ≤ a.gate.cache.epoch) {t : Task}
    (asks : t = .verifying loginId password epoch
      (.call (.find loginId) fun found => .done (verdictOn a.rules password found)))
    (fresh : Fresh ⟨a, before ++ t :: after⟩ log) :
    Fresh ⟨(t.turn a).1, before ++ (t.turn a).2 :: after⟩
      ((t.event a before.length).toList ++ log) := by
  subst asks
  have rules := a.perform_rules (.find loginId)
  have cache := a.perform_cache (c := .find loginId) (by simp)
  have stored : ∀ other m, a.shelf.find other = .ok (some m) →
      (a.perform (.find loginId)).1.shelf.find other = .ok (some m) :=
    fun other m held => a.find_of_perform held (by simp)
  refine fresh.turn _ rules (Nat.le_of_eq (by rw [Task.turn, cache])) (fun _ waits => waits.elim)
    (fun other m _ held => stored other m held) (fun other _ replaced => ?kept) (by simp)
    ⟨by rwa [Task.turn, cache], Or.inr ⟨_, rfl, ?holds⟩⟩
    (fun _ _ resident _ => Or.inl (by rwa [Task.turn, cache] at resident))
  case kept =>
    rw [Task.event] at replaced
    split at replaced
    · split at replaced
      · cases replaced
      · cases replaced
    · cases replaced
  case holds =>
    intro who good _ _
    obtain ⟨m, told, accepts, rfl⟩ := verdictOn_eq_ok.mp good
    refine ⟨m, stored loginId m (a.find_of_perform_find told), by rwa [Task.turn, rules], rfl, ?_⟩
    rw [event_asked told accepts]
    exact ⟨[], log, rfl, List.not_mem_nil⟩

/-- A verdict makes an entry only in the epoch it was asked for in, where it still holds. -/
theorem fresh_closed {loginId password : String} {epoch : Nat}
    {verdict : Except VerifyFailure Identity} {t : Task}
    (told : t = .verifying loginId password epoch (.done verdict))
    (holds : (World.view ⟨a, before ++ t :: after⟩ log).Holds ⟨before.length, password⟩ loginId
      epoch verdict)
    (fresh : Fresh ⟨a, before ++ t :: after⟩ log) :
    Fresh ⟨(t.turn a).1, before ++ (t.turn a).2 :: after⟩
      ((t.event a before.length).toList ++ log) := by
  subst told
  have same := a.gate.epoch_closeRequest a.now epoch loginId password verdict
  have kept loginId' : Task.event a before.length (.verifying loginId password epoch
      (.done verdict)) ≠ some (.replaced loginId') := by
    cases verdict with
    | error e => simp [Task.event]
    | ok who =>
      rw [Task.event]
      split
      · simp
      · simp
  refine fresh.turn _ rfl (Nat.le_of_eq same.symm) (fun _ waits => waits.elim)
    (fun _ _ _ held => held) (fun other _ => kept other) (by simp) trivial
    (fun key slot resident settled => ?_)
  rcases Gate.closeRequest_entry resident with old | ⟨who, rfl, rfl, present, rfl⟩
  · exact Or.inl old
  · have cached : Task.event a before.length (.verifying key password epoch (.done (.ok who))) =
        some (.cached before.length a.gate.cache.nextGeneration) := if_pos present.symm
    obtain ⟨m, stored, accepts, own, current⟩ := holds who rfl present settled
    refine Or.inr ⟨⟨before.length, password⟩, ⟨?_, rfl, ?_⟩, m, stored, accepts, own,
      current.logged (kept key)⟩
    · simp [Task.turn, Gate.closeRequest]
    · rw [cached]
      exact List.mem_cons_self

/-- A call of a password change: the update lets the eviction follow, which ends what it affects. -/
theorem fresh_served {loginId : String} {c : Call}
    {next : c.Reply → ServiceScript (Except Failure Member)} {t : Task}
    (serves : t = .serving loginId (.call c next)) (inval : Invalidates loginId (.call c next))
    (fresh : Fresh ⟨a, before ++ t :: after⟩ log) :
    Fresh ⟨(t.turn a).1, before ++ (t.turn a).2 :: after⟩
      ((t.event a before.length).toList ++ log) := by
  subst serves
  have rules := a.perform_rules c
  cases inval with
  | call _ _ keeps own later =>
    have unlogged : Task.event a before.length (.serving loginId (.call c next)) = none := by
      cases c with
      | update key passwordHash => exact absurd rfl (keeps key passwordHash)
      | find key => rfl
      | insert m => rfl
      | salt => rfl
      | evict key => rfl
      | count k => rfl
    rw [unlogged]
    have stored : ∀ other m, a.shelf.find other = .ok (some m) →
        (a.perform c).1.shelf.find other = .ok (some m) :=
      fun other m held => a.find_of_perform held fun passwordHash h => absurd h (keeps _ _)
    by_cases evicts : ∃ key, c = .evict key
    · obtain ⟨key, rfl⟩ := evicts
      obtain rfl := own key rfl
      have cache := a.perform_evict_cache key
      refine fresh.turn none rules (by rw [Task.turn, cache, Cache.epoch_evict]; omega) ?_
        (fun other m _ held => stored other m held) (by simp) (by simp) (later _) ?_
      · rintro other ⟨rfl, _⟩
        refine ⟨by rw [Task.turn, cache, Cache.epoch_evict]; omega, ?_⟩
        rw [Option.eq_none_iff_forall_ne_some]
        intro slot resident
        rw [Task.turn, cache] at resident
        exact (Cache.evict_entry resident).1 rfl
      · intro other slot resident _
        rw [Task.turn, cache] at resident
        exact Or.inl (Cache.evict_entry resident).2
    · have cache := a.perform_cache (c := c) (fun key h => evicts ⟨key, h⟩)
      refine fresh.turn none rules (Nat.le_of_eq (by rw [Task.turn, cache])) ?_
        (fun other m _ held => stored other m held) (by simp) (by simp) (later _)
        (fun _ _ resident _ => Or.inl (by rwa [Task.turn, cache] at resident))
      rintro other ⟨_, _, h⟩
      cases h
      exact absurd ⟨other, rfl⟩ evicts
  | update passwordHash next evicts later =>
    have cache := a.perform_cache (c := .update loginId passwordHash) (by simp)
    -- Had the update succeeded, the request would now await its eviction.
    have failed (calm : ¬ Task.AwaitsEviction loginId
        (.serving loginId (next (a.perform (.update loginId passwordHash)).2))) :
        ∃ e, (a.perform (.update loginId passwordHash)).2 = .error e := by
      cases reply : (a.perform (.update loginId passwordHash)).2 with
      | error e => exact ⟨e, rfl⟩
      | ok u =>
        rw [reply] at calm
        exact absurd ⟨rfl, evicts⟩ calm
    refine fresh.turn _ rules (Nat.le_of_eq (by rw [Task.turn, cache])) ?_ ?_ ?_ (by simp)
      (later _) (fun _ _ resident _ => Or.inl (by rwa [Task.turn, cache] at resident))
    · rintro other ⟨_, _, h⟩
      cases h
    · intro other m calm held
      refine a.find_of_perform (c := .update loginId passwordHash) held fun hash h => ?_
      cases h
      exact failed calm
    · intro other calm replaced
      rw [Task.event] at replaced
      split at replaced
      · rename_i reply
        cases replaced
        obtain ⟨e, other⟩ := failed calm
        rw [reply] at other
        cases other
      · cases replaced

end Turn

theorem fresh_turn {a : App} {before after : List Task} {t : Task} {log : List Event}
    (fresh : Fresh ⟨a, before ++ t :: after⟩ log) :
    Fresh ⟨(t.turn a).1, before ++ (t.turn a).2 :: after⟩
      ((t.event a before.length).toList ++ log) := by
  have sound := fresh.present
  match t with
  | .deciding loginId password => exact fresh_opened fresh
  | .verifying loginId password epoch (.call c next) =>
    obtain ⟨behind, asking | ⟨_, told, _⟩⟩ := sound
    · cases asking.trans (verify_eq a.rules loginId password)
      exact fresh_asked behind rfl fresh
    · cases told
  | .verifying loginId password epoch (.done verdict) =>
    obtain ⟨_, asking | ⟨_, told, holds⟩⟩ := sound
    · cases asking
    · cases told
      exact fresh_closed rfl holds fresh
  | .decided loginId password result => exact fresh
  | .serving loginId (.call c next) => exact fresh_served rfl sound fresh
  | .serving loginId (.done result) => exact fresh

/-- A request that has just arrived changes nothing for the others. -/
theorem Fresh.arrive {w : World} {log : List Event} {t : Task} (fresh : Fresh w log)
    (sound : ∀ place, Sound w log place t) : Fresh ⟨w.app, w.tasks ++ [t]⟩ log := by
  have settled : ∀ loginId, World.Settled ⟨w.app, w.tasks ++ [t]⟩ loginId → w.Settled loginId :=
    fun loginId h u hu => h u (List.mem_append_left _ hu)
  have adv : (w.view log).Advances (World.view ⟨w.app, w.tasks ++ [t]⟩ log) := by
    refine ⟨Nat.le_refl _, fun loginId h => Or.inl (settled loginId h), ?_, fun _ _ _ _ h => h⟩
    rintro d loginId slot ⟨there, digest, cached⟩
    have bound := (List.getElem?_eq_some_iff.mp there).1
    exact ⟨(List.getElem?_append_left bound).trans there, digest, cached⟩
  refine fresh.advance rfl adv (fun place u there => ?_)
    (fun loginId slot resident h => Or.inl ⟨resident, settled loginId h⟩)
  rcases getElem?_of_arrival there with old | rfl
  · exact Or.inl old
  · exact Or.inr ((sound place).advance rfl adv)

/-- Cached credentials stay fresh at every step of every request. -/
theorem fresh_step {w w' : World} {log : List Event} {event : Option Event} (fresh : Fresh w log)
    (step : w.Step event w') : Fresh w' (event.toList ++ log) := by
  cases step with
  | authenticate _ loginId password => exact fresh.arrive fun _ => trivial
  | change _ loginId current new =>
    exact fresh.arrive (t := .serving loginId (changePassword w.app.rules loginId current new))
      fun _ => invalidates_changePassword w.app.rules loginId current new
  | register _ r =>
    exact fresh.arrive (t := .serving r.loginId (Service.register w.app.rules r))
      fun _ => invalidates_register w.app.rules r r.loginId
  | turn a before after t => exact fresh_turn fresh
  | advance _ duration => exact fresh.quiet rfl rfl rfl (.refl _)
  | purge =>
    have pruned := w.app.gate.cache.prunes_purge w.app.now
    rw [← Gate.cache_purge] at pruned
    exact fresh.quiet rfl rfl rfl pruned

theorem fresh_of_run {a : App} {w : World} {log : List Event} (empty : a.gate.cache.slots = ∅)
    (run : World.Run ⟨a, []⟩ log w) : Fresh w log := by
  induction run with
  | refl =>
    refine ⟨by simp, fun loginId slot resident _ => ?_⟩
    rw [World.view, empty, Std.ExtTreeMap.getElem?_empty] at resident
    cases resident
  | tail _ step ih => exact fresh_step ih step

/-- In every state of every run, an entry of a settled member is backed. -/
theorem backed_of_run {a : App} {w : World} {log : List Event} {loginId : String} {slot : Slot}
    (empty : a.gate.cache.slots = ∅) (run : World.Run ⟨a, []⟩ log w) (settled : w.Settled loginId)
    (resident : w.app.gate.cache.slots[loginId]? = some slot) : Backed w log loginId slot :=
  (fresh_of_run empty run).founded loginId slot resident settled

/-- Every change of the member's password has its answer. -/
theorem settled_of_answered {w : World} {loginId : String}
    (answered : ∀ rest, .serving loginId rest ∈ w.tasks → ∃ result, rest = .done result) :
    w.Settled loginId := by
  rintro (_ | _ | _ | ⟨other, rest⟩) ht waits
  · exact waits
  · exact waits
  · exact waits
  · obtain ⟨rfl, _, rfl⟩ := waits
    obtain ⟨_, h⟩ := answered _ ht
    cases h

end Interleaving

end MemberAuth
