import MemberAuth.Proofs.Auth.Acts
import MemberAuth.Proofs.Http.Ownership

/-!
# Rejections do not tell why

A request with both credentials that is refused gets one and the same response, and adds the same to
the counters, in every state of the application: whether the login id is unknown or could not be
one, the password is wrong or not the cached one, or the store does not answer. What a handler would
have done has no part in it.
-/
namespace MemberAuth

theorem Metrics.get_count (m : Metrics) (k j : Counter) :
    (m.count k).get j = m.get j + if j = k then 1 else 0 := by
  rw [count, get_add]
  split <;> rfl

namespace Gate

variable {g g' : Gate} {now epoch : Nat} {loginId password : String}

/-- A look-up counts nothing, also if it drops an entry. -/
theorem counts_get (g : Gate) (now : Nat) (key : String) (k : Counter) :
    (g.get now key).1.metrics.get k = g.metrics.get k := by
  rw [get]
  split
  · rfl
  · cases k <;> rfl
  · rfl

/-- What is left open counts as a miss, and as nothing else. -/
theorem counts_pending
    (opened : g.openRequest now loginId password = (g', .pending epoch)) (k : Counter) :
    g'.metrics.get k = g.metrics.get k + if k = .cacheMiss then 1 else 0 := by
  obtain ⟨_, _, rfl, _⟩ := openRequest_pending opened
  have looked := g.counts_get now loginId k
  have counted := (g.get now loginId).1.metrics.get_count .cacheMiss k
  rw [looked] at counted
  exact counted

end Gate

namespace App

variable {a : App} {loginId password : String}

/-- A verification asks the store and leaves the gate alone. -/
theorem verify_gate (a : App) (gate : Gate) (loginId password : String) :
    verify { a with gate } loginId password =
      ({ (a.verify loginId password).1 with gate }, (a.verify loginId password).2) := by
  simp only [verify, Service.verify_eq, serve, Script.run, perform]
  cases a.faults.onFind with
  | nil => simp only [onStore_find]
  | cons e rest => rfl

/-- A refusal of credentials that are both given: nothing live decides, the store does not vouch for
them, and the failure is always the same. -/
theorem authenticate_error (filled : ¬(Text.allBlank loginId || Text.allBlank password) = true)
    {e : AuthFailure} (refused : (a.authenticate loginId password).2 = .error e) :
    e = .authenticationFailed ∧
      (∀ slot, a.gate.cache.lookup a.now loginId = .live slot →
        slot.credential.digest ≠ passwordDigest password) ∧
      (∃ cause, (a.verify loginId password).2 = .error cause) ∧
      ∀ k, (a.authenticate loginId password).1.gate.metrics.get k =
        a.gate.metrics.get k + if k = .cacheMiss ∨ k = .slowPathFailure then 1 else 0 := by
  rw [authenticate] at refused ⊢
  rcases a.gate.openRequest_of_not_blank a.now filled with
    ⟨gate, who, opened⟩ | ⟨gate, epoch, opened⟩
  · rw [opened] at refused
    cases refused
  obtain ⟨_, unlike, _, _⟩ := Gate.openRequest_pending opened
  have missed := Gate.counts_pending opened
  rw [opened] at refused ⊢
  dsimp only at refused ⊢
  rw [a.verify_gate gate] at refused ⊢
  cases verdict : (a.verify loginId password).2 with
  | ok who =>
    rw [verdict] at refused
    cases refused
  | error cause =>
    rw [verdict] at refused
    cases refused
    refine ⟨rfl, unlike, ⟨cause, rfl⟩, fun k => ?_⟩
    have failed := gate.metrics.get_count .slowPathFailure k
    rw [missed k] at failed
    refine failed.trans ?_
    cases k <;> rfl

/-- Credentials are refused for want of a live entry with their digest and of a store that vouches
for them, and for nothing else. -/
theorem refused_iff (filled : ¬(Text.allBlank loginId || Text.allBlank password) = true) :
    (∃ e, (a.authenticate loginId password).2 = .error e) ↔
      (∀ slot, a.gate.cache.lookup a.now loginId = .live slot →
        slot.credential.digest ≠ passwordDigest password) ∧
      ∃ cause, (a.verify loginId password).2 = .error cause := by
  constructor
  · rintro ⟨e, refused⟩
    obtain ⟨_, unlike, unvouched, _⟩ := authenticate_error filled refused
    exact ⟨unlike, unvouched⟩
  · rintro ⟨unlike, cause, unvouched⟩
    rw [authenticate]
    have opened := Gate.openRequest_of_miss filled unlike
    rw [opened]
    dsimp only
    rw [a.verify_gate, unvouched]
    exact ⟨_, rfl⟩

end App

namespace Http

open Text Service

/-- What is done once a request is admitted, in the place of the two handlers. -/
structure Handlers where
  register : App → Request → App × Response
  member : App → Route → Identity → Request → App × Response

def Handlers.own : Handlers :=
  ⟨Http.register, answerMember⟩

def answerRouteWith (handlers : Handlers) (a : App) (route : Route) (r : Request) :
    App × Response :=
  if route.needsMember then
    match a.authenticate r.loginId r.password with
    | (a, .error e) => (a, markMethod route r (.ofFailure e.toFailure))
    | (a, .ok who) =>
      if route.methods.contains r.method then handlers.member a route who r
      else (a, markMethod route r (.empty 405))
  else if route.methods.contains r.method then handlers.register a r
  else (a, markMethod route r (.empty 405))

def answerWith (handlers : Handlers) (a : App) (r : Request) : App × Response :=
  match Route.ofPath? r.path with
  | none => (a, .empty 404)
  | some route =>
    let (a, response) := answerRouteWith handlers a route r
    (a, if r.method = "HEAD" then response.withoutBody else response)

theorem answerWith_own : answerWith .own = answer := rfl

/-- A request with both credentials to look at the own profile or to change the own password, which
is not authenticated. -/
structure Rejected (a : App) (r : Request) : Prop where
  target : (r.method = "GET" ∧ r.path = Route.profile.path) ∨
    (r.method = "PATCH" ∧ r.path = Route.password.path)
  named : ∃ loginId, r.header? loginIdHeader = some loginId ∧ allBlank loginId = false
  given : ∃ password, r.header? passwordHeader = some password ∧ allBlank password = false
  refused : ∃ e, (a.authenticate r.loginId r.password).2 = .error e

/-- What comes of a request: the one response, without any handler, and two counters that go up. -/
structure TurnedAway (a : App) (r : Request) : Prop where
  response : (answer a r).2 = .ofFailure .authenticationFailed
  unhandled : ∀ handlers, answerWith handlers a r = answer a r
  counted : ∀ k, (answer a r).1.gate.metrics.get k =
    a.gate.metrics.get k + if k = .cacheMiss ∨ k = .slowPathFailure then 1 else 0

variable {a b : App} {r q : Request}

theorem Request.filled
    (named : ∃ loginId, r.header? loginIdHeader = some loginId ∧ allBlank loginId = false)
    (given : ∃ password, r.header? passwordHeader = some password ∧ allBlank password = false) :
    ¬(allBlank r.loginId || allBlank r.password) = true := by
  obtain ⟨loginId, named, present⟩ := named
  obtain ⟨password, given, there⟩ := given
  have own : r.loginId = loginId := by rw [Request.loginId, named, Option.getD_some]
  have secret : r.password = password := by rw [Request.password, given, Option.getD_some]
  rw [own, secret, present, there]
  decide

theorem answerWith_refused {route : Route} {e : AuthFailure} (needs : route.needsMember = true)
    (path : r.path = route.path) (method : route.methods.contains r.method = true)
    (other : r.method ≠ "HEAD") (refused : (a.authenticate r.loginId r.password).2 = .error e)
    (handlers : Handlers) :
    answerWith handlers a r =
      ((a.authenticate r.loginId r.password).1, .ofFailure e.toFailure) := by
  have found : Route.ofPath? route.path = some route := by cases route <;> decide
  have decided : a.authenticate r.loginId r.password =
      ((a.authenticate r.loginId r.password).1, .error e) := Prod.ext rfl refused
  rw [answerWith, path, found]
  dsimp only
  rw [answerRouteWith, if_pos needs, decided]
  dsimp only
  rw [if_neg other, markMethod, if_pos method]

namespace Rejected

/-- The response is the refusal, and it is made without a handler. -/
theorem answerWith_eq (h : Rejected a r) (handlers : Handlers) :
    answerWith handlers a r = ((a.authenticate r.loginId r.password).1,
      .ofFailure .authenticationFailed) := by
  obtain ⟨e, refused⟩ := h.refused
  obtain ⟨rfl, _⟩ := App.authenticate_error (Request.filled h.named h.given) refused
  rcases h.target with ⟨method, path⟩ | ⟨method, path⟩
  · apply answerWith_refused rfl path _ _ refused
    · rw [method]
      decide
    · rw [method]
      decide
  · apply answerWith_refused rfl path _ _ refused
    · rw [method]
      decide
    · rw [method]
      decide

theorem turnedAway (h : Rejected a r) : TurnedAway a r := by
  have own := h.answerWith_eq .own
  rw [answerWith_own] at own
  obtain ⟨e, refused⟩ := h.refused
  obtain ⟨_, _, _, counted⟩ := App.authenticate_error (Request.filled h.named h.given) refused
  constructor
  · rw [own]
  · intro handlers
    rw [h.answerWith_eq handlers, own]
  · intro k
    rw [own]
    exact counted k

end Rejected

/-- Two requests that are rejected get the same response, wherever and for whatever cause. -/
theorem rejections_alike (left : Rejected a r) (right : Rejected b q) :
    (answer a r).2 = (answer b q).2 ∧ TurnedAway a r ∧ TurnedAway b q := by
  have here := left.turnedAway
  have there := right.turnedAway
  exact ⟨here.response.trans there.response.symm, here, there⟩

/-- With an empty cache, credentials are refused unless the store vouches for them. -/
theorem rejected_of_empty (empty : a.gate.cache.slots = ∅)
    (target : (r.method = "GET" ∧ r.path = Route.profile.path) ∨
      (r.method = "PATCH" ∧ r.path = Route.password.path))
    (named : ∃ loginId, r.header? loginIdHeader = some loginId ∧ allBlank loginId = false)
    (given : ∃ password, r.header? passwordHeader = some password ∧ allBlank password = false)
    (unvouched : ∃ cause, (a.verify r.loginId r.password).2 = .error cause) : Rejected a r := by
  refine ⟨target, named, given, (App.refused_iff (Request.filled named given)).mpr ⟨?_, unvouched⟩⟩
  intro slot live
  rw [Cache.lookup, empty, Std.ExtTreeMap.getElem?_empty] at live
  cases live

/-- A wrong password for a registered member, and a store that does not answer. -/
theorem rejections_alike_wrong_and_unavailable : ∃ b,
    (App.costing Hash.lowestCost).register (App.adaRegistration "Lovelace#1") =
        (b, .ok (App.adaMember Hash.lowestCost "Lovelace#1")) ∧
      Rejected b (adaGet "Lovelace#2") ∧
      Rejected (b.addFault fun _ => ⟨[], [.json], []⟩) (adaPatch "Lovelace#1" "Lovelace#2") ∧
      (answer b (adaGet "Lovelace#2")).2 =
        (answer (b.addFault fun _ => ⟨[], [.json], []⟩) (adaPatch "Lovelace#1" "Lovelace#2")).2 ∧
      TurnedAway b (adaGet "Lovelace#2") ∧
      TurnedAway (b.addFault fun _ => ⟨[], [.json], []⟩) (adaPatch "Lovelace#1" "Lovelace#2") := by
  obtain ⟨b, m, registered, after, stored⟩ :=
    App.register_ada Hash.lowestCost (App.valid_ada "Lovelace#1" (by simp))
  have empty : b.gate.cache.slots = ∅ := by
    rw [after.cache]
    rfl
  have wrong : Rejected b (adaGet "Lovelace#2") := by
    obtain ⟨h1, h2, _⟩ := Hash.head_output
    have named : (adaGet "Lovelace#2").loginId = "ada" := by decide
    have given : (adaGet "Lovelace#2").password = "Lovelace#2" := by decide
    refine rejected_of_empty empty (Or.inl ⟨rfl, rfl⟩) ⟨"ada", by decide, by decide⟩
      ⟨"Lovelace#2", by decide, by decide⟩ ⟨.wrongPassword, ?_⟩
    have unlike : b.rules.hasher.verify (App.adaMember Hash.lowestCost "Lovelace#1").passwordHash
        "Lovelace#2" = false :=
      Hash.verify_eq_false "Lovelace#1" "Lovelace#2" (by rw [h2, h1]; decide) _
    rw [named, given, App.verify_eq_verdictOn after.unfailing, after.keeps.find, stored]
    dsimp only
    rw [verdictOn, unlike, if_neg Bool.false_ne_true]
  have unavailable : Rejected (b.addFault fun _ => ⟨[], [.json], []⟩)
      (adaPatch "Lovelace#1" "Lovelace#2") :=
    rejected_of_empty empty (Or.inr ⟨rfl, rfl⟩) ⟨"ada", by decide, by decide⟩
      ⟨"Lovelace#1", by decide, by decide⟩ ⟨_, rfl⟩
  exact ⟨b, registered, wrong, unavailable, rejections_alike wrong unavailable⟩

end Http

end MemberAuth
