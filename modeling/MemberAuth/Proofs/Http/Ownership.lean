import MemberAuth.Proofs.Http.Login
import MemberAuth.Proofs.Service.Footprint
import MemberAuth.Proofs.Service.Overlap

/-!
# Only its owner changes a member

In a run of requests, whatever they are, each one leaves every file as it was, or registers one new
member, or replaces the password hash of one member. The last is done only for the member that the
request names in its headers, with a password that is accepted there and with the current password
in the body.
-/
namespace MemberAuth.Http

open Text Store Service Interleaving

/-- A request has registered a member: its document and its reservation are new. -/
structure Registers (a b : App) (r : Request) (response : Response) (m : Member) : Prop where
  method : r.method = "POST"
  path : r.path = Route.members.path
  status : response.status = 201
  files : Adds a.shelf.disk b.shelf.disk m

/-- A request has changed the password of a member who made it: who the headers named was let in, and
knew the current password. -/
structure ChangesOwn (a b : App) (r : Request) (response : Response) (m : Member)
    (passwordHash : String) : Prop where
  method : r.method = "PATCH"
  path : r.path = Route.password.path
  status : response.status = 200
  named : r.header? loginIdHeader = some m.loginId
  accepted : ∃ password who, r.header? passwordHeader = some password ∧
    (a.authenticate m.loginId password).2 = .ok who ∧ who.loginId = m.loginId
  knows : ∃ change, PasswordChange.parse r.body = .ok change ∧
    a.rules.hasher.verify m.passwordHash change.currentPassword = true
  files : Rehashes a.shelf.disk b.shelf.disk m passwordHash

inductive Effect (a b : App) (r : Request) (response : Response) : Prop
  | none (files : SameFiles a.shelf.disk b.shelf.disk)
  | registers {m : Member} (h : Registers a b r response m)
  | changesOwn {m : Member} {passwordHash : String}
    (h : ChangesOwn a b r response m passwordHash)

theorem Route.path_of_ofPath? {path : String} {route : Route} (h : ofPath? path = some route) :
    path = route.path := by
  have found := List.find?_some h
  exact (beq_iff_eq.mp found).symm

section Decision

variable {a : App} {r : Roster} {loginId password : String} {who : Identity}

/-- Who is let in has the login id that was asked about. -/
theorem loginId_of_authenticate (unfailing : a.faults = .none) (keeps : a.shelf.Keeps r)
    (entries : ∀ (loginId : String) (slot : Slot), a.gate.cache.slots[loginId]? = some slot →
      slot.credential.identity.loginId = loginId)
    (accepted : (a.authenticate loginId password).2 = .ok who) : who.loginId = loginId := by
  by_cases blank : (allBlank loginId || allBlank password) = true
  · rw [App.authenticate, a.gate.openRequest_of_blank a.now blank] at accepted
    cases accepted
  rw [App.authenticate] at accepted
  rcases a.gate.openRequest_of_not_blank a.now blank with
    ⟨gate, cached, opened⟩ | ⟨gate, epoch, opened⟩
  · rw [opened] at accepted
    cases accepted
    obtain ⟨slot, resident, credential⟩ := Gate.openRequest_ok opened
    have own := entries loginId slot resident
    rwa [credential] at own
  · have asked := App.verify_eq_verdictOn (a := { a with gate }) unfailing loginId password
    rw [opened] at accepted
    dsimp only at accepted
    rw [asked] at accepted
    dsimp only at accepted
    cases verdict : verdictOn a.rules password (a.shelf.find loginId) with
    | error e =>
      rw [verdict] at accepted
      cases accepted
    | ok identity =>
      rw [verdict] at accepted
      cases accepted
      obtain ⟨m, found, _, rfl⟩ := verdictOn_eq_ok.mp verdict
      rw [keeps.find] at found
      exact (keeps.own loginId m (Except.ok.inj found)).1

/-- Nobody is let in without a login id and a password. -/
theorem not_blank_of_authenticate (accepted : (a.authenticate loginId password).2 = .ok who) :
    allBlank loginId = false ∧ allBlank password = false := by
  by_cases blank : (allBlank loginId || allBlank password) = true
  · rw [App.authenticate, a.gate.openRequest_of_blank a.now blank] at accepted
    cases accepted
  · exact Bool.or_eq_false_iff.mp (Bool.eq_false_iff.mpr blank)

end Decision

/-- What stands in for an absent header is blank. -/
theorem header?_of_not_blank {r : Request} {name : String}
    (h : allBlank ((r.header? name).getD "") = false) :
    r.header? name = some ((r.header? name).getD "") := by
  cases value : r.header? name with
  | none =>
    rw [value] at h
    exact absurd h (by decide)
  | some text => rfl

section Handlers

variable {a : App} {r : Roster} {request : Request}

theorem register_effect (unfailing : a.faults = .none) (keeps : a.shelf.Keeps r)
    (method : request.method = "POST") (path : request.path = Route.members.path) :
    Effect a (register a request).1 request (register a request).2 := by
  rw [register]
  cases readBody request Registration.parse with
  | error response => exact .none fun _ => rfl
  | ok registration =>
    rcases App.register_files unfailing keeps registration with ⟨_, _, same⟩ | ⟨m, ok, adds⟩
    · exact .none same
    · refine .registers (m := m) ⟨method, path, ?_, adds⟩
      dsimp only
      rw [ok]
      rfl

/-- A change of password by a member that was let in, after which only the gate is another one. -/
theorem changePassword_effect {gate : Gate} {loginId password : String} {who : Identity}
    (unfailing : a.faults = .none) (keeps : a.shelf.Keeps r)
    (method : request.method = "PATCH") (path : request.path = Route.password.path)
    (named : request.header? loginIdHeader = some loginId)
    (given : request.header? passwordHeader = some password)
    (accepted : (a.authenticate loginId password).2 = .ok who) (own : who.loginId = loginId) :
    Effect a (changePassword { a with gate } who request).1 request
      (changePassword { a with gate } who request).2 := by
  rw [changePassword]
  cases body : readBody request PasswordChange.parse with
  | error response => exact .none fun _ => rfl
  | ok change =>
    rcases App.changePassword_files (a := { a with gate }) unfailing keeps who.loginId
      change.currentPassword change.newPassword with
      ⟨_, _, same⟩ | ⟨m, passwordHash, mine, knows, ok, rehashes⟩
    · exact .none same
    · obtain rfl : m.loginId = loginId := mine.trans own
      refine .changesOwn (m := m) ⟨method, path, ?_, named, ⟨password, who, given, accepted, own⟩,
        ⟨change, readBody_ok body, knows⟩, rehashes⟩
      dsimp only
      rw [ok]
      rfl

/-- A request for a route that needs a member, once the decision is made. -/
theorem respond_effect {gate : Gate} {route : Route} (needs : route.needsMember = true)
    (path : request.path = route.path) (unfailing : a.faults = .none) (keeps : a.shelf.Keeps r)
    (entries : ∀ (loginId : String) (slot : Slot), a.gate.cache.slots[loginId]? = some slot →
      slot.credential.identity.loginId = loginId) :
    Effect a
      (respond { a with gate } route request
        (a.authenticate request.loginId request.password).2).1 request
      (respond { a with gate } route request
        (a.authenticate request.loginId request.password).2).2 := by
  cases accepted : (a.authenticate request.loginId request.password).2 with
  | error e => exact .none fun _ => rfl
  | ok who =>
    obtain ⟨named, given⟩ := not_blank_of_authenticate accepted
    have own := loginId_of_authenticate unfailing keeps entries accepted
    rw [respond]
    split
    · rename_i known
      cases route with
      | members => exact absurd needs (by decide)
      | profile =>
        have shown : (showProfile { a with gate } who).1 = { a with gate } :=
          App.getMember_app (a := { a with gate }) unfailing who.loginId
        refine .none fun q => ?_
        change Disk.entry? (showProfile { a with gate } who).1.shelf.disk q = _
        rw [shown]
      | password =>
        have method : request.method = "PATCH" := by
          rwa [Route.methods, List.contains_iff_mem, List.mem_singleton] at known
        exact changePassword_effect unfailing keeps method path (header?_of_not_blank named)
          (header?_of_not_blank given) accepted own
    · exact .none fun _ => rfl

/-- A `HEAD` request neither registers anybody nor changes a password. -/
theorem Effect.withoutBody {b : App} {response : Response} (h : Effect a b request response) :
    Effect a b request (if request.method = "HEAD" then response.withoutBody else response) := by
  split
  · cases h with
    | none files => exact .none files
    | registers h => exact .registers ⟨h.method, h.path, h.status, h.files⟩
    | changesOwn h =>
      exact .changesOwn ⟨h.method, h.path, h.status, h.named, h.accepted, h.knows, h.files⟩
  · exact h

theorem answer_effect (unfailing : a.faults = .none) (keeps : a.shelf.Keeps r)
    (entries : ∀ (loginId : String) (slot : Slot), a.gate.cache.slots[loginId]? = some slot →
      slot.credential.identity.loginId = loginId) (request : Request) :
    Effect a (answer a request).1 request (answer a request).2 := by
  rw [answer]
  split
  · exact .none fun _ => rfl
  rename_i route found
  have path := Route.path_of_ofPath? found
  dsimp only
  refine Effect.withoutBody ?_
  by_cases needs : route.needsMember = true
  · obtain ⟨gate, decided⟩ := App.authenticate_app unfailing request.loginId request.password
    rw [answerRoute_of_needsMember needs, decided]
    exact respond_effect needs path unfailing keeps entries
  rw [answerRoute, if_neg needs]
  split
  · rename_i known
    cases route with
    | members =>
      have method : request.method = "POST" := by
        rwa [Route.methods, List.contains_iff_mem, List.mem_singleton] at known
      exact register_effect unfailing keeps method path
    | profile => exact absurd rfl needs
    | password => exact absurd rfl needs
  · exact .none fun _ => rfl

theorem Effect.keepsMembers {b : App} {response : Response} (h : Effect a b request response)
    (keeps : a.shelf.Keeps r) : KeepsMembers a.shelf.disk b.shelf.disk := by
  cases h with
  | none files => exact keeps.keepsMembers_of_sameFiles files
  | registers h => exact keeps.keepsMembers_of_adds h.files
  | changesOwn h => exact keeps.keepsMembers_of_rehashes h.files

end Handlers

theorem Reachable.handled {a b : App} (h : Reachable a)
    (handled : World.Handles (fun _ => True) a b) : Reachable b := by
  obtain ⟨ended, run, _⟩ := handled.reaches []
  exact .requests h run

theorem Reachable.afterVisits {a : App} (h : Reachable a) (visits : List Visit) :
    Reachable (afterVisits a visits) := by
  induction visits generalizing a with
  | nil => exact h
  | cons v rest ih => exact ih ((h.handled (World.handles_ready a v)).answer v.request)

/-- In a run of requests from an empty disk on, every request leaves all files as they were, or
registers one member, or is the change of its password by a member who was let in. Every member stays
with its id, its login id, its name, its birth date and its address. -/
theorem only_owner_changes {settings : Settings} {salts : Nat → Hash.Salt} {a : App}
    (started : App.start settings Disk.empty salts = .ok a) (visits : List Visit) (v : Visit) :
    let here := v.ready (afterVisits a visits)
    Effect here (answer here v.request).1 v.request (answer here v.request).2 ∧
      KeepsMembers here.shelf.disk (answer here v.request).1.shelf.disk := by
  intro here
  have reachable : Reachable here :=
    ((Reachable.start started).afterVisits visits).handled (World.handles_ready _ v)
  obtain ⟨r, orderly⟩ := reachable.orderly
  have keeps : here.shelf.Keeps r := orderly.keeps
  have effect := answer_effect orderly.unfailing keeps orderly.entries v.request
  exact ⟨effect, effect.keepsMembers keeps⟩

/-- The change of its password by a stored member who is let in and passes the checks is done. -/
theorem answer_password {a : App} {r : Roster} {m : Member} {request : Request}
    {change : PasswordChange} (unfailing : a.faults = .none) (keeps : a.shelf.Keeps r)
    (entries : ∀ (loginId : String) (slot : Slot), a.gate.cache.slots[loginId]? = some slot →
      slot.credential.identity.loginId = loginId)
    (method : request.method = "PATCH") (path : request.path = Route.password.path)
    (stored : r.members[request.loginId]? = some m)
    (accepts : a.rules.hasher.verify m.passwordHash request.password = true)
    (present : allBlank request.loginId = false) (given : allBlank request.password = false)
    (body : readBody request PasswordChange.parse = .ok change)
    (checked : checkChange a.rules m change.currentPassword change.newPassword = .ok ()) :
    (answer a request).2.status = 200 := by
  have other : request.method ≠ "HEAD" := by
    rw [method]
    decide
  have known : Route.password.methods.contains request.method = true := by
    rw [method]
    decide
  obtain ⟨gate, who, decided, own⟩ :=
    authenticate_stored unfailing keeps entries stored accepts present given
  obtain ⟨_, _, _, changed, _⟩ :=
    App.changePassword_of_check (a := { a with gate }) unfailing keeps stored checked
  rw [answer_of_needsMember rfl path other, decided, respond, if_pos known, answerMember,
    changePassword, body]
  dsimp only
  rw [own, changed]
  rfl

def adaPatch (current new : String) : Request :=
  ⟨"PATCH", Route.password.path,
    [("content-type", textBytes "application/json"), (loginIdHeader, textBytes "ada"),
      (passwordHeader, textBytes current)], (PasswordChange.mk current new).toJson⟩

/-- A member registers, and then changes its password with the request above. -/
theorem changed_ada : ∃ a, App.start { hashing := ⟨1, 1, 1⟩ } Disk.empty (fun _ => .replicate 16 7) =
      .ok a ∧
    (answer (answer a (adaPost "Lovelace#1")).1 (adaPatch "Lovelace#1" "Lovelace#2")).2.status =
      200 := by
  refine ⟨App.costing Hash.lowestCost, rfl, ?_⟩
  obtain ⟨b, m, registered, after, stored⟩ :=
    App.register_ada Hash.lowestCost (App.valid_ada "Lovelace#1" (by simp))
  have posted : (answer (App.costing Hash.lowestCost) (adaPost "Lovelace#1")).1 = b := by
    have body : readBody (adaPost "Lovelace#1") Registration.parse =
        .ok (App.adaRegistration "Lovelace#1") :=
      readBody_json rfl (by decide +kernel) (Registration.parse_toJson _)
    rw [answer_register rfl rfl, register, body]
    dsimp only
    rw [registered]
  have rules : b.rules = ⟨⟨Hash.lowestCost⟩, .requireAllClasses⟩ := after.rules
  have entries : ∀ (loginId : String) (slot : Slot), b.gate.cache.slots[loginId]? = some slot →
      slot.credential.identity.loginId = loginId := by
    rw [after.cache]
    simp [App.costing, App.newCache, Cache.new]
  have named : (adaPatch "Lovelace#1" "Lovelace#2").loginId = "ada" := by decide
  have given : (adaPatch "Lovelace#1" "Lovelace#2").password = "Lovelace#1" := by decide
  rw [posted]
  apply answer_password after.unfailing after.keeps entries rfl rfl
    (m := App.adaMember Hash.lowestCost "Lovelace#1")
  · rw [named]
    exact stored
  · rw [given]
    exact App.accepts_ada _ _ _
  · rw [named]
    decide
  · rw [given]
    decide
  · exact readBody_json rfl (by decide +kernel) (PasswordChange.parse_toJson _)
  · exact App.checkChange_ada (by rw [rules]) "Lovelace#2" (by simp)

/-- The theorem at that change. -/
theorem only_owner_changes_ada : ∃ a,
    App.start { hashing := ⟨1, 1, 1⟩ } Disk.empty (fun _ => .replicate 16 7) = .ok a ∧
    (answer (answer a (adaPost "Lovelace#1")).1 (adaPatch "Lovelace#1" "Lovelace#2")).2.status =
      200 ∧
    Effect (answer a (adaPost "Lovelace#1")).1
      (answer (answer a (adaPost "Lovelace#1")).1 (adaPatch "Lovelace#1" "Lovelace#2")).1
      (adaPatch "Lovelace#1" "Lovelace#2")
      (answer (answer a (adaPost "Lovelace#1")).1 (adaPatch "Lovelace#1" "Lovelace#2")).2 := by
  obtain ⟨a, started, status⟩ := changed_ada
  refine ⟨a, started, status, ?_⟩
  exact (only_owner_changes started [⟨[], adaPost "Lovelace#1"⟩]
    ⟨[], adaPatch "Lovelace#1" "Lovelace#2"⟩).1

end MemberAuth.Http
