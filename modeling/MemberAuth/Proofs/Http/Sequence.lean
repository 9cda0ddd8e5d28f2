import MemberAuth.Http.Routes
import MemberAuth.Proofs.Auth.Freshness

/-!
# Requests one after another

A run of requests, with time passing and purges between them. Such a run is one of the ways in which
decisions, password changes and registrations can go side by side, and at its end none of them is
under way. So every resident entry rests on a password that came in a header and that the stored
hash accepts.
-/
namespace MemberAuth

namespace Http

/-- What happens to an application between requests. -/
inductive Pause
  | advance (duration : Nat)
  | purge
  deriving DecidableEq, Repr

def Pause.pass (a : App) : Pause → App
  | advance duration => a.advance duration
  | purge => a.purge.1

/-- A request, and what happens before it. -/
structure Visit where
  before : List Pause
  request : Request
  deriving DecidableEq, Repr

/-- The application as the request finds it. -/
def Visit.ready (v : Visit) (a : App) : App :=
  v.before.foldl Pause.pass a

def Request.loginId (r : Request) : String :=
  (r.header? loginIdHeader).getD ""

def Request.password (r : Request) : String :=
  (r.header? passwordHeader).getD ""

/-- What a route that needs a member does once the decision is made. -/
def respond (a : App) (route : Route) (r : Request) :
    Except AuthFailure Identity → App × Response
  | .error e => (a, markMethod route r (.ofFailure e.toFailure))
  | .ok who =>
    if route.methods.contains r.method then answerMember a route who r
    else (a, markMethod route r (.empty 405))

theorem answerRoute_of_needsMember {route : Route} (h : route.needsMember = true) (a : App)
    (r : Request) :
    answerRoute a route r =
      respond (a.authenticate r.loginId r.password).1 route r
        (a.authenticate r.loginId r.password).2 := by
  rw [answerRoute, if_pos h]
  dsimp only [Request.loginId, Request.password]
  generalize a.authenticate _ _ = outcome
  obtain ⟨b, e | who⟩ := outcome <;> rfl

/-- The application after a run of requests. -/
def afterVisits (a : App) (visits : List Visit) : App :=
  visits.foldl (fun a v => (answer (v.ready a) v.request).1) a

/-- The responses of a run, each with the store as it is then. -/
def transcript (a : App) : List Visit → List (Response × Store.Shelf)
  | [] => []
  | v :: rest =>
    let (a, response) := answer (v.ready a) v.request
    (response, a.shelf) :: transcript a rest

theorem transcript_cons (a : App) (v : Visit) (rest : List Visit) :
    transcript a (v :: rest) =
      ((answer (v.ready a) v.request).2, (answer (v.ready a) v.request).1.shelf) ::
        transcript (answer (v.ready a) v.request).1 rest := rfl

end Http

namespace Interleaving

open Service Http

/-- A request that has its answer. A decision was about a password of some collection. -/
inductive Task.Over (known : String → Prop) : Task → Prop
  | decided (loginId password : String) (result : Except AuthFailure Identity)
    (h : known password) : Over known (.decided loginId password result)
  | served (loginId : String) (result : Except Failure Member) :
    Over known (.serving loginId (.done result))

/-- Some requests come to an application, and all get their answers before anything else happens. -/
structure World.Handles (known : String → Prop) (a b : App) : Prop where
  unfailing : a.faults = .none → b.faults = .none
  reaches : ∀ tasks, ∃ ended, Reaches ⟨a, tasks⟩ ⟨b, tasks ++ ended⟩ ∧ ∀ t ∈ ended, t.Over known

namespace World

variable {known : String → Prop} {a b c : App}

theorem Handles.refl (known : String → Prop) (a : App) : Handles known a a := by
  refine ⟨id, fun tasks => ⟨[], ?_, by simp⟩⟩
  rw [List.append_nil]
  exact .refl

theorem Handles.trans (hab : Handles known a b) (hbc : Handles known b c) :
    Handles known a c := by
  refine ⟨hbc.unfailing ∘ hab.unfailing, fun tasks => ?_⟩
  obtain ⟨first, reach, ended⟩ := hab.reaches tasks
  obtain ⟨second, reach', ended'⟩ := hbc.reaches (tasks ++ first)
  refine ⟨first ++ second, ?_, fun t ht => ?_⟩
  · rw [← List.append_assoc]
    exact reach.trans reach'
  · rcases List.mem_append.mp ht with h | h
    · exact ended t h
    · exact ended' t h

/-- A request that arrives and then runs to its answer. -/
theorem handles_one {t : Task} (unfailing : a.faults = .none → b.faults = .none)
    (ended : t.Over known) (h : ∀ tasks, Reaches ⟨a, tasks⟩ ⟨b, tasks ++ [t]⟩) :
    Handles known a b := by
  refine ⟨unfailing, fun tasks => ⟨[t], h tasks, fun u hu => ?_⟩⟩
  rw [List.mem_singleton.mp hu]
  exact ended

theorem handles_authenticate (a : App) (loginId : String) {password : String}
    (h : known password) : Handles known a (a.authenticate loginId password).1 := by
  refine handles_one (fun unfailing => ?_)
    (.decided loginId password (a.authenticate loginId password).2 h) fun tasks =>
      reaches_decided tasks a loginId password
  obtain ⟨gate, eq⟩ := App.authenticate_app unfailing loginId password
  rw [eq]
  exact unfailing

theorem handles_register (a : App) (r : Registration) : Handles known a (a.register r).1 :=
  handles_one (fun unfailing => App.serve_faults unfailing _)
    (.served r.loginId (a.register r).2) fun tasks => reaches_registered tasks a r

theorem handles_changePassword (a : App) (loginId current new : String) :
    Handles known a (a.changePassword loginId current new).1 :=
  handles_one (fun unfailing => App.serve_faults unfailing _)
    (.served loginId (a.changePassword loginId current new).2) fun tasks =>
      reaches_changed tasks a loginId current new

theorem handles_pause (a : App) (p : Pause) : Handles known a (p.pass a) := by
  cases p with
  | advance duration =>
    refine ⟨id, fun tasks => ⟨[], ?_, by simp⟩⟩
    rw [List.append_nil]
    exact .single ⟨_, .advance ⟨a, tasks⟩ duration⟩
  | purge =>
    refine ⟨id, fun tasks => ⟨[], ?_, by simp⟩⟩
    rw [List.append_nil]
    exact .single ⟨_, .purge ⟨a, tasks⟩⟩

theorem handles_ready (a : App) (v : Visit) : Handles known a (v.ready a) := by
  rw [Visit.ready]
  induction v.before generalizing a with
  | nil => exact .refl known a
  | cons p rest ih => exact (handles_pause a p).trans (ih (p.pass a))

theorem handles_answerMember (unfailing : a.faults = .none) (route : Route) (who : Identity)
    (r : Request) : Handles known a (answerMember a route who r).1 := by
  have shown : (showProfile a who).1 = a := App.getMember_app unfailing who.loginId
  cases route with
  | members =>
    rw [answerMember, shown]
    · exact .refl known a
    · exact Route.noConfusion
  | profile =>
    rw [answerMember, shown]
    · exact .refl known a
    · exact Route.noConfusion
  | password =>
    rw [answerMember, Http.changePassword]
    split
    · exact .refl known a
    · exact handles_changePassword a who.loginId _ _

theorem handles_respond (unfailing : a.faults = .none) (route : Route) (r : Request)
    (result : Except AuthFailure Identity) : Handles known a (respond a route r result).1 := by
  cases result with
  | error e => exact .refl known a
  | ok who =>
    rw [respond]
    split
    · exact handles_answerMember unfailing route who r
    · exact .refl known a

/-- A request is answered by at most one decision, and at most one operation after it. -/
theorem handles_answer (unfailing : a.faults = .none) (r : Request) (h : known r.password) :
    Handles known a (answer a r).1 := by
  rw [answer]
  split
  · exact .refl known a
  rename_i route _
  change Handles known a (answerRoute a route r).1
  by_cases needs : route.needsMember = true
  · rw [answerRoute_of_needsMember needs]
    have decided := handles_authenticate a r.loginId h
    exact decided.trans (handles_respond (decided.unfailing unfailing) route r _)
  rw [answerRoute, if_neg needs]
  split
  · rw [Http.register]
    split
    · exact .refl known a
    · exact handles_register a _
  · exact .refl known a

end World

end Interleaving

namespace App

open Interleaving

/-- Some requests have come to an application whose cache was empty, and all have their answers. -/
structure Visited (known : String → Prop) (a : App) : Prop where
  unfailing : a.faults = .none
  reached : ∃ (start : App) (tasks : List Task), start.gate.cache.slots = ∅ ∧
    World.Reaches ⟨start, []⟩ ⟨a, tasks⟩ ∧ ∀ t ∈ tasks, t.Over known

variable {known : String → Prop} {a b : App}

theorem Visited.handle (visited : a.Visited known) (h : World.Handles known a b) :
    b.Visited known := by
  obtain ⟨unfailing, start, tasks, empty, reach, ended⟩ := visited
  obtain ⟨further, reach', ended'⟩ := h.reaches tasks
  refine ⟨h.unfailing unfailing, start, tasks ++ further, empty, reach.trans reach', ?_⟩
  intro t ht
  rcases List.mem_append.mp ht with h | h
  · exact ended t h
  · exact ended' t h

theorem visited_start {settings : Settings} {disk : Disk} {salts : Nat → Hash.Salt}
    (h : start settings disk salts = .ok a) : a.Visited known := by
  obtain ⟨shelf, cost, _, _, rfl⟩ := start_eq_ok h
  exact ⟨rfl, _, [], rfl, .refl, by simp⟩

/-- Every resident entry rests on a known password that the hash stored now accepts. -/
theorem Visited.backed (visited : a.Visited known) {loginId : String} {slot : Slot}
    (resident : a.gate.cache.slots[loginId]? = some slot) :
    ∃ password, known password ∧ slot.credential.digest = passwordDigest password ∧
      a.Vouches loginId password slot.credential.identity := by
  obtain ⟨_, start, tasks, empty, reach, ended⟩ := visited
  have settled : World.Settled ⟨a, tasks⟩ loginId := by
    refine settled_of_answered fun rest ht => ?_
    cases ended _ ht with
    | served _ result => exact ⟨result, rfl⟩
  obtain ⟨log, run⟩ := World.reaches_iff_run.mp reach
  obtain ⟨d, ⟨made, digest, _⟩, m, stored, accepts, own, _⟩ :=
    backed_of_run empty run settled resident
  cases ended _ (List.mem_of_getElem? made) with
  | decided _ _ _ h => exact ⟨d.password, h, digest, m, stored, accepts, own⟩

end App

end MemberAuth
