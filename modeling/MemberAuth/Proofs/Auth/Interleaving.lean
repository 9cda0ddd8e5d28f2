import MemberAuth.App
import Mathlib.Logic.Relation

/-!
# Requests side by side

Any number of decisions, password changes and registrations at once on one application. A request
stands before the next of its calls, and at each step one of them carries out that call, or time
passes, or expired entries are purged, or a further request arrives. Requests that have their answer
stay in the list. A log can be kept of which stored hash a verification has accepted a password
against, which entry was written after that, and when a stored hash was replaced.
-/
namespace MemberAuth.Interleaving

open Service

/-- How far a request has got. -/
inductive Task
  /-- A decision that has not looked into the cache yet. -/
  | deciding (loginId password : String)
  /-- A decision that asks the stored members, with the epoch taken before. -/
  | verifying (loginId password : String) (epoch : Nat)
    (rest : ServiceScript (Except VerifyFailure Identity))
  | decided (loginId password : String) (result : Except AuthFailure Identity)
  /-- A password change or a registration, with the login id that it is about. -/
  | serving (loginId : String) (rest : ServiceScript (Except Failure Member))

inductive Event
  /-- The verification at a place has read this hash, and it accepts the password. -/
  | accepted (place : Nat) (passwordHash : String)
  /-- The decision at a place has written the entry with this number. -/
  | cached (place generation : Nat)
  /-- The hash that is stored for a member was replaced. -/
  | replaced (loginId : String)
  deriving DecidableEq, Repr

namespace Task

/-- The next step of a request on an application. -/
def turn (a : App) : Task → App × Task
  | .deciding loginId password =>
    match a.gate.openRequest a.now loginId password with
    | (gate, .decided result) => ({ a with gate }, .decided loginId password result)
    | (gate, .pending epoch) =>
      ({ a with gate }, .verifying loginId password epoch (verify a.rules loginId password))
  | .verifying loginId password epoch (.call c next) =>
    let (a, r) := a.perform c
    (a, .verifying loginId password epoch (next r))
  | .verifying loginId password epoch (.done verdict) =>
    let (gate, result) := a.gate.closeRequest a.now loginId password epoch verdict
    ({ a with gate }, .decided loginId password result)
  | .decided loginId password result => (a, .decided loginId password result)
  | .serving loginId (.call c next) =>
    let (a, r) := a.perform c
    (a, .serving loginId (next r))
  | .serving loginId (.done result) => (a, .serving loginId (.done result))

/-- What is logged of the next step of the request at a place. -/
def event (a : App) (place : Nat) : Task → Option Event
  | .verifying _ password _ (.call (.find loginId) _) =>
    match (a.perform (.find loginId)).2 with
    | .ok (some m) =>
      if a.rules.hasher.verify m.passwordHash password then some (.accepted place m.passwordHash)
      else none
    | _ => none
  | .verifying _ _ epoch (.done (.ok _)) =>
    if a.gate.cache.epoch = epoch then some (.cached place a.gate.cache.nextGeneration) else none
  | .serving _ (.call (.update loginId passwordHash) _) =>
    match (a.perform (.update loginId passwordHash)).2 with
    | .ok () => some (.replaced loginId)
    | .error _ => none
  | _ => none

/-- A change of the member's password stands between its update and its eviction. -/
def AwaitsEviction (loginId : String) : Task → Prop
  | .serving other rest => other = loginId ∧ ∃ next, rest = .call (.evict loginId) next
  | _ => False

end Task

structure World where
  app : App
  tasks : List Task

namespace World

/-- One step, with what is logged of it. -/
inductive Step : World → Option Event → World → Prop
  | authenticate (w : World) (loginId password : String) :
    Step w none ⟨w.app, w.tasks ++ [.deciding loginId password]⟩
  | change (w : World) (loginId current new : String) :
    Step w none ⟨w.app,
      w.tasks ++ [.serving loginId (changePassword w.app.rules loginId current new)]⟩
  | register (w : World) (r : Registration) :
    Step w none ⟨w.app, w.tasks ++ [.serving r.loginId (Service.register w.app.rules r)]⟩
  | turn (a : App) (before after : List Task) (t : Task) :
    Step ⟨a, before ++ t :: after⟩ (t.event a before.length)
      ⟨(t.turn a).1, before ++ (t.turn a).2 :: after⟩
  | advance (w : World) (duration : Nat) : Step w none ⟨w.app.advance duration, w.tasks⟩
  | purge (w : World) : Step w none ⟨w.app.purge.1, w.tasks⟩

/-- Any number of steps in any order. -/
def Reaches : World → World → Prop :=
  Relation.ReflTransGen fun v w => ∃ event, Step v event w

/-- Such steps with their log, the latest event first. -/
inductive Run (v : World) : List Event → World → Prop
  | refl : Run v [] v
  | tail {log : List Event} {event : Option Event} {w w' : World} (run : Run v log w)
    (step : Step w event w') : Run v (event.toList ++ log) w'

theorem reaches_iff_run {v w : World} : v.Reaches w ↔ ∃ log, v.Run log w := by
  constructor
  · intro reach
    induction reach with
    | refl => exact ⟨[], .refl⟩
    | tail _ step ih =>
      obtain ⟨log, run⟩ := ih
      obtain ⟨event, step⟩ := step
      exact ⟨_, run.tail step⟩
  · rintro ⟨log, run⟩
    induction run with
    | refl => exact .refl
    | tail _ step ih => exact ih.tail ⟨_, step⟩

/-- No change of the member's password stands between its update and its eviction. -/
def Settled (w : World) (loginId : String) : Prop :=
  ∀ t ∈ w.tasks, ¬ t.AwaitsEviction loginId

variable (before after : List Task)

theorem reaches_verified (a : App) (loginId password : String) (epoch : Nat)
    (rest : ServiceScript (Except VerifyFailure Identity)) :
    Reaches ⟨a, before ++ .verifying loginId password epoch rest :: after⟩
      ⟨(a.serve rest).1,
        before ++ .verifying loginId password epoch (.done (a.serve rest).2) :: after⟩ := by
  induction rest generalizing a with
  | done verdict => exact .refl
  | call c next ih =>
    exact .head ⟨_, .turn a before after (.verifying loginId password epoch (.call c next))⟩
      (ih (a.perform c).2 (a.perform c).1)

/-- A decision that nothing comes between does what the application does in one go. -/
theorem reaches_authenticate (a : App) (loginId password : String) :
    Reaches ⟨a, before ++ .deciding loginId password :: after⟩
      ⟨(a.authenticate loginId password).1,
        before ++ .decided loginId password (a.authenticate loginId password).2 :: after⟩ := by
  have first := Step.turn a before after (.deciding loginId password)
  rw [Task.turn] at first
  rw [App.authenticate]
  generalize a.gate.openRequest a.now loginId password = opened at first ⊢
  obtain ⟨gate, result | epoch⟩ := opened
  · exact .single ⟨_, first⟩
  · have asked := reaches_verified before after { a with gate } loginId password epoch
      (verify a.rules loginId password)
    exact .head ⟨_, first⟩ (asked.tail ⟨_, .turn _ before after _⟩)

/-- A password change or a registration that nothing comes between does what the application does in
one go. -/
theorem reaches_served (a : App) (loginId : String)
    (rest : ServiceScript (Except Failure Member)) :
    Reaches ⟨a, before ++ .serving loginId rest :: after⟩
      ⟨(a.serve rest).1, before ++ .serving loginId (.done (a.serve rest).2) :: after⟩ := by
  induction rest generalizing a with
  | done result => exact .refl
  | call c next ih =>
    exact .head ⟨_, .turn a before after (.serving loginId (.call c next))⟩
      (ih (a.perform c).2 (a.perform c).1)

variable (tasks : List Task) (a : App)

/-- A decision that arrives and has its answer before anything else happens. -/
theorem reaches_decided (loginId password : String) :
    Reaches ⟨a, tasks⟩ ⟨(a.authenticate loginId password).1,
      tasks ++ [.decided loginId password (a.authenticate loginId password).2]⟩ :=
  .head ⟨_, .authenticate ⟨a, tasks⟩ loginId password⟩
    (reaches_authenticate tasks [] a loginId password)

theorem reaches_registered (r : Registration) :
    Reaches ⟨a, tasks⟩
      ⟨(a.register r).1, tasks ++ [.serving r.loginId (.done (a.register r).2)]⟩ :=
  .head ⟨_, .register ⟨a, tasks⟩ r⟩
    (reaches_served tasks [] a r.loginId (Service.register a.rules r))

theorem reaches_changed (loginId current new : String) :
    Reaches ⟨a, tasks⟩ ⟨(a.changePassword loginId current new).1,
      tasks ++ [.serving loginId (.done (a.changePassword loginId current new).2)]⟩ :=
  .head ⟨_, .change ⟨a, tasks⟩ loginId current new⟩
    (reaches_served tasks [] a loginId (changePassword a.rules loginId current new))

end World

end MemberAuth.Interleaving
