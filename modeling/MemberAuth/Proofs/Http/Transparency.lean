import MemberAuth.Proofs.Http.Sequence

/-!
# The cache does not show

Two applications on the same stored members give the same responses to the same requests, however
long their entries live, however many they keep, and whatever time passes in between. A decision
that the cache makes is the one that the stored members would have made.
-/
namespace MemberAuth

open Service

/-- The reply of an eviction makes no difference to a script. -/
inductive CacheBlind {α : Type} : ServiceScript α → Prop
  | done (result : α) : CacheBlind (.done result)
  | call (c : Call) (next : c.Reply → ServiceScript α) (reads : ∀ key, c ≠ .evict key)
    (later : ∀ r, CacheBlind (next r)) : CacheBlind (.call c next)
  | evict (key : String) (rest : ServiceScript α) (later : CacheBlind rest) :
    CacheBlind (.call (.evict key) fun _ => rest)

theorem cacheBlind_getMember (loginId : String) : CacheBlind (getMember loginId) := by
  refine .call (.find loginId) _ (by simp) fun found => ?_
  rcases found with e | m | m <;> exact .done _

theorem cacheBlind_register (rules : Rules) (r : Registration) :
    CacheBlind (register rules r) := by
  rw [register]
  cases checkRegistration rules r with
  | error e => exact .done _
  | ok admission =>
    refine .call .salt _ (by simp) fun salt => ?_
    refine .call (.insert _) _ (by simp) fun inserted => ?_
    cases inserted with
    | error e => exact .done _
    | ok m => exact .call (.count .memberRegistered) _ (by simp) fun _ => .done _

theorem cacheBlind_changePassword (rules : Rules) (loginId current new : String) :
    CacheBlind (changePassword rules loginId current new) := by
  refine .call (.find loginId) _ (by simp) fun found => ?_
  rcases found with e | m | m
  · exact .done _
  · exact .done _
  cases hc : checkChange rules m current new with
  | error e =>
    simp only [Script.bind, hc]
    exact .done _
  | ok u =>
    simp only [Script.bind, hc]
    refine .call .salt _ (by simp) fun salt => ?_
    refine .call (.update loginId _) _ (by simp) fun updated => ?_
    cases updated with
    | error e => exact .done _
    | ok u =>
      refine .evict loginId _ ?_
      exact .call (.count .passwordChanged) _ (by simp) fun _ => .done _

namespace App

/-- Two applications with the same rules, the same store and the same salts to come. -/
structure SameMembers (a b : App) : Prop where
  rules : b.rules = a.rules
  shelf : b.shelf = a.shelf
  salts : b.salts = a.salts
  saltCount : b.saltCount = a.saltCount
  unfailing : a.faults = .none ∧ b.faults = .none

namespace SameMembers

variable {a b : App}

/-- Gates and clocks do not count. -/
theorem regate (same : a.SameMembers b) (gate gate' : Gate) (now now' : Nat) :
    { a with gate, now }.SameMembers { b with gate := gate', now := now' } :=
  ⟨same.rules, same.shelf, same.salts, same.saltCount, same.unfailing⟩

theorem onStore (same : a.SameMembers b) {α : Type} (script : Store.FileScript α) :
    (a.onStore script).1.SameMembers (b.onStore script).1 ∧
      (b.onStore script).2 = (a.onStore script).2 := by
  have shelf : (b.onStore script).1.shelf = (a.onStore script).1.shelf := by
    rw [onStore_shelf, onStore_shelf, same.shelf]
  refine ⟨⟨same.rules, shelf, same.salts, same.saltCount, same.unfailing⟩, ?_⟩
  rw [App.onStore, App.onStore, same.shelf]

theorem perform (same : a.SameMembers b) {c : Call} (hc : ∀ key, c ≠ .evict key) :
    (a.perform c).1.SameMembers (b.perform c).1 ∧ (b.perform c).2 = (a.perform c).2 := by
  obtain ⟨ha, hb⟩ := same.unfailing
  cases c with
  | find loginId =>
    rw [perform_find ha, perform_find hb]
    exact ⟨same, by rw [same.shelf]⟩
  | insert m =>
    rw [perform_insert ha, perform_insert hb]
    exact same.onStore _
  | update loginId passwordHash =>
    rw [perform_update ha, perform_update hb]
    exact same.onStore _
  | salt =>
    refine ⟨⟨same.rules, same.shelf, same.salts, ?_, same.unfailing⟩, ?_⟩
    · exact congrArg (· + 1) same.saltCount
    · change b.salts b.saltCount = a.salts a.saltCount
      rw [same.salts, same.saltCount]
  | evict key => exact absurd rfl (hc key)
  | count k => exact ⟨same.regate _ _ _ _, rfl⟩

/-- A script that does not look at the replies of evictions goes the same way on both. -/
theorem serve {α : Type} {script : ServiceScript α} (blind : CacheBlind script)
    (same : a.SameMembers b) :
    (a.serve script).1.SameMembers (b.serve script).1 ∧
      (b.serve script).2 = (a.serve script).2 := by
  induction blind generalizing a b with
  | done result => exact ⟨same, rfl⟩
  | call c next reads _ ih =>
    obtain ⟨same', reply⟩ := same.perform reads
    change (App.serve (a.perform c).1 (next (a.perform c).2)).1.SameMembers
      (App.serve (b.perform c).1 (next (b.perform c).2)).1 ∧
        (App.serve (b.perform c).1 (next (b.perform c).2)).2 =
          (App.serve (a.perform c).1 (next (a.perform c).2)).2
    rw [reply]
    exact ih _ same'
  | evict key rest _ ih => exact ih (same.regate _ _ _ _)

theorem register (same : a.SameMembers b) (r : Registration) :
    (a.register r).1.SameMembers (b.register r).1 ∧ (b.register r).2 = (a.register r).2 := by
  rw [App.register, App.register, same.rules]
  exact same.serve (cacheBlind_register a.rules r)

theorem changePassword (same : a.SameMembers b) (loginId current new : String) :
    (a.changePassword loginId current new).1.SameMembers (b.changePassword loginId current new).1 ∧
      (b.changePassword loginId current new).2 = (a.changePassword loginId current new).2 := by
  rw [App.changePassword, App.changePassword, same.rules]
  exact same.serve (cacheBlind_changePassword a.rules loginId current new)

end SameMembers

/-- What the stored members say about a login id and a password. -/
def judge (a : App) (loginId password : String) : Except AuthFailure Identity :=
  if Text.allBlank loginId || Text.allBlank password then .error .missingCredentials
  else
    match verdictOn a.rules password (a.shelf.find loginId) with
    | .ok who => .ok who
    | .error _ => .error .authenticationFailed

section Visited

variable {known : String → Prop} {a : App} {loginId password : String}

/-- Whom the cache lets in, the durable verification lets in. -/
theorem Visited.verify_of_openRequest (visited : a.Visited known)
    (distinct : ∀ q, known q → passwordDigest q = passwordDigest password → q = password)
    {gate : Gate} {who : Identity}
    (h : a.gate.openRequest a.now loginId password = (gate, .decided (.ok who))) :
    (a.verify loginId password).2 = .ok who := by
  obtain ⟨slot, resident, credential⟩ := Gate.openRequest_ok h
  obtain ⟨q, hq, digest, m, stored, accepts, identity⟩ := visited.backed resident
  rw [credential] at digest identity
  have same := distinct q hq digest.symm
  rw [same] at accepts
  rw [verify_eq_verdictOn visited.unfailing]
  exact verdictOn_eq_ok.mpr ⟨m, stored, accepts, identity⟩

/-- Cache or not, the stored members decide. -/
theorem Visited.authenticate_eq_judge (visited : a.Visited known)
    (distinct : ∀ q, known q → passwordDigest q = passwordDigest password → q = password) :
    (a.authenticate loginId password).2 = a.judge loginId password := by
  by_cases blank : (Text.allBlank loginId || Text.allBlank password) = true
  · rw [authenticate, Gate.openRequest_of_blank _ _ blank, judge, if_pos blank]
  rw [judge, if_neg blank]
  rcases Gate.openRequest_of_not_blank a.gate a.now blank with ⟨gate, who, h⟩ | ⟨gate, epoch, h⟩
  · have vouched := visited.verify_of_openRequest distinct h
    rw [verify_eq_verdictOn visited.unfailing] at vouched
    change verdictOn a.rules password (a.shelf.find loginId) = .ok who at vouched
    rw [authenticate, h, vouched]
  · have asked := verify_eq_verdictOn (a := { a with gate }) visited.unfailing loginId password
    rw [authenticate, h]
    simp only [asked]
    cases verdictOn a.rules password (a.shelf.find loginId) with
    | error e => rfl
    | ok who => rfl

end Visited

end App

namespace Http

open Interleaving

variable {known : String → Prop} {a b : App}

theorem sameMembers_ready (same : a.SameMembers b) (v w : Visit) :
    (v.ready a).SameMembers (w.ready b) := by
  have ready : ∀ (v : Visit) (a : App), ∃ gate now, v.ready a = { a with gate, now } := by
    intro v a
    rw [Visit.ready]
    induction v.before generalizing a with
    | nil => exact ⟨_, _, rfl⟩
    | cons p rest ih =>
      obtain ⟨gate, now, h⟩ := ih (p.pass a)
      rw [List.foldl_cons, h]
      cases p <;> exact ⟨gate, now, rfl⟩
  obtain ⟨gate, now, hv⟩ := ready v a
  obtain ⟨gate', now', hw⟩ := ready w b
  rw [hv, hw]
  exact same.regate gate gate' now now'

/-- Both applications answer in the same way, and go on with the same members. -/
def Alike (x y : App × Response) : Prop :=
  x.1.SameMembers y.1 ∧ y.2 = x.2

theorem alike_answerMember (same : a.SameMembers b) (route : Route) (who : Identity)
    (r : Request) : Alike (answerMember a route who r) (answerMember b route who r) := by
  have shown : Alike (showProfile a who) (showProfile b who) := by
    obtain ⟨same', result⟩ := same.serve (cacheBlind_getMember who.loginId)
    exact ⟨same', congrArg (memberResponse 200) result⟩
  cases route with
  | members => exact shown
  | profile => exact shown
  | password =>
    change Alike (changePassword a who r) (changePassword b who r)
    rw [changePassword, changePassword]
    split
    · exact ⟨same, rfl⟩
    · rename_i change _
      obtain ⟨same', result⟩ :=
        same.changePassword who.loginId change.currentPassword change.newPassword
      exact ⟨same', congrArg (memberResponse 200) result⟩

theorem alike_respond (same : a.SameMembers b) (route : Route) (r : Request)
    (result : Except AuthFailure Identity) :
    Alike (respond a route r result) (respond b route r result) := by
  cases result with
  | error e => exact ⟨same, rfl⟩
  | ok who =>
    rw [respond, respond]
    split
    · exact alike_answerMember same route who r
    · exact ⟨same, rfl⟩

theorem alike_answerRoute (same : a.SameMembers b) (ha : a.Visited known) (hb : b.Visited known)
    (route : Route) (r : Request)
    (distinct : ∀ q, known q → passwordDigest q = passwordDigest r.password → q = r.password) :
    Alike (answerRoute a route r) (answerRoute b route r) := by
  by_cases needs : route.needsMember = true
  · rw [answerRoute_of_needsMember needs, answerRoute_of_needsMember needs,
      ha.authenticate_eq_judge distinct, hb.authenticate_eq_judge distinct]
    obtain ⟨gate, h⟩ := App.authenticate_app ha.unfailing r.loginId r.password
    obtain ⟨gate', h'⟩ := App.authenticate_app hb.unfailing r.loginId r.password
    have judged : b.judge r.loginId r.password = a.judge r.loginId r.password := by
      rw [App.judge, App.judge, same.rules, same.shelf]
    rw [h, h', judged]
    exact alike_respond (same.regate gate gate' a.now b.now) route r _
  rw [answerRoute, answerRoute, if_neg needs, if_neg needs]
  split
  · rw [register, register]
    split
    · exact ⟨same, rfl⟩
    · rename_i registration _
      obtain ⟨same', result⟩ := same.register registration
      exact ⟨same', congrArg (memberResponse 201) result⟩
  · exact ⟨same, rfl⟩

theorem alike_answer (same : a.SameMembers b) (ha : a.Visited known) (hb : b.Visited known)
    (r : Request)
    (distinct : ∀ q, known q → passwordDigest q = passwordDigest r.password → q = r.password) :
    Alike (answer a r) (answer b r) := by
  rw [answer, answer]
  split
  · exact ⟨same, rfl⟩
  · rename_i route _
    obtain ⟨same', response⟩ := alike_answerRoute same ha hb route r distinct
    refine ⟨same', ?_⟩
    change (if _ then _ else _) = (if _ then _ else _)
    rw [response]

theorem visited_answer (ha : a.Visited known) (v : Visit) (h : known v.request.password) :
    App.Visited known (answer (v.ready a) v.request).1 := by
  have ready := ha.handle (World.handles_ready a v)
  exact ready.handle (World.handles_answer ready.unfailing v.request h)

theorem visited_afterVisits (ha : a.Visited known) (visits : List Visit)
    (h : ∀ v ∈ visits, known v.request.password) : (afterVisits a visits).Visited known := by
  induction visits generalizing a with
  | nil => exact ha
  | cons v rest ih =>
    exact ih (visited_answer ha v (h v List.mem_cons_self))
      fun w hw => h w (List.mem_cons_of_mem v hw)

theorem transcript_eq (same : a.SameMembers b) (ha : a.Visited known) (hb : b.Visited known)
    (distinct : ∀ p q, known p → known q → passwordDigest p = passwordDigest q → p = q)
    {visits visits' : List Visit} (requests : visits.map (·.request) = visits'.map (·.request))
    (h : ∀ v ∈ visits, known v.request.password) :
    transcript a visits = transcript b visits' := by
  induction visits generalizing visits' a b with
  | nil =>
    cases visits' with
    | nil => rfl
    | cons w rest => cases requests
  | cons v rest ih =>
    cases visits' with
    | nil => cases requests
    | cons w rest' =>
      obtain ⟨request, requests⟩ := List.cons.inj requests
      have hv := h v List.mem_cons_self
      have same' := sameMembers_ready same v w
      have ha' := ha.handle (World.handles_ready a v)
      have hb' := hb.handle (World.handles_ready b w)
      obtain ⟨same'', response⟩ := alike_answer same' ha' hb' v.request
        fun q hq => distinct q v.request.password hq hv
      have further := ih same'' (ha'.handle (World.handles_answer ha'.unfailing v.request hv))
        (hb'.handle (World.handles_answer hb'.unfailing v.request hv)) requests
        fun u hu => h u (List.mem_cons_of_mem v hu)
      have request : v.request = w.request := request
      rw [transcript_cons, transcript_cons, ← request, further, response, same''.shelf]

/-- Two applications that are started on one disk with the same salts, and differ in what their
settings say about the cache, answer the same requests in the same way and store the same, whatever
pauses there are in between. Whom the cache lets in on the way, the durable verification lets in. -/
theorem cache_unobservable {settings : Settings} {cache cache' : Settings.Cache} {disk : Disk}
    {salts : Nat → Hash.Salt} {visits visits' : List Visit}
    (starts : App.start { settings with cache } disk salts = .ok a)
    (starts' : App.start { settings with cache := cache' } disk salts = .ok b)
    (requests : visits.map (·.request) = visits'.map (·.request))
    (distinct : ∀ v ∈ visits, ∀ w ∈ visits,
      passwordDigest v.request.password = passwordDigest w.request.password →
      v.request.password = w.request.password) :
    transcript a visits = transcript b visits' ∧
      ∀ before v after, visits = before ++ v :: after →
        let here := v.ready (afterVisits a before)
        ∀ gate who, here.gate.openRequest here.now v.request.loginId v.request.password =
            (gate, .decided (.ok who)) →
          (here.verify v.request.loginId v.request.password).2 = .ok who := by
  have distinct' : ∀ p q, (∃ v ∈ visits, v.request.password = p) →
      (∃ v ∈ visits, v.request.password = q) → passwordDigest p = passwordDigest q → p = q := by
    rintro _ _ ⟨v, hv, rfl⟩ ⟨w, hw, rfl⟩ same
    exact distinct v hv w hw same
  have visited : a.Visited fun p => ∃ v ∈ visits, v.request.password = p :=
    App.visited_start starts
  have visited' : b.Visited fun p => ∃ v ∈ visits, v.request.password = p :=
    App.visited_start starts'
  constructor
  · refine transcript_eq ?_ visited visited' distinct' requests fun v hv => ⟨v, hv, rfl⟩
    obtain ⟨shelf, cost, opened, costs, rfl⟩ := App.start_eq_ok starts
    obtain ⟨shelf', cost', opened', costs', rfl⟩ := App.start_eq_ok starts'
    have shelves : shelf' = shelf := Except.ok.inj (opened'.symm.trans opened)
    have cost_eq : cost' = cost := Option.some.inj (costs'.symm.trans costs)
    rw [shelves, cost_eq]
    exact ⟨rfl, rfl, rfl, rfl, rfl, rfl⟩
  · rintro before v after rfl here gate who served
    have hv : v ∈ before ++ v :: after := by simp
    have reached := visited_afterVisits visited before fun w hw =>
      ⟨w, List.mem_append_left _ hw, rfl⟩
    have ready := reached.handle (World.handles_ready _ v)
    exact ready.verify_of_openRequest (fun q hq => distinct' q _ hq ⟨v, hv, rfl⟩) served

/-- A registration and two requests of the new member, the first of them after some pauses. -/
def beginnings (pauses : List Pause) : List Visit :=
  let headers :=
    [("content-type", Text.textBytes "application/json"), (loginIdHeader, Text.textBytes "ada"),
      (passwordHeader, Text.textBytes "Lovelace#1")]
  let post : Request := ⟨"POST", "/api/v1/members", headers,
    "\x7b\"loginId\":\"ada\",\"password\":\"Lovelace#1\",\"name\":\"Ada\"," ++
      "\"email\":\"ada@example.org\",\"birthDate\":\"1990-01-02\"\x7d"⟩
  let get : Request := ⟨"GET", "/api/v1/members/me", headers, ""⟩
  [⟨[], post⟩, ⟨pauses, get⟩, ⟨[], get⟩]

theorem cache_unobservable_in_beginnings : ∃ a b,
    App.start { ({} : Settings) with cache := {} } Disk.empty (fun _ => .replicate 16 7) = .ok a ∧
    App.start { ({} : Settings) with cache := ⟨1, 1, 1⟩ } Disk.empty (fun _ => .replicate 16 7) =
      .ok b ∧ transcript a (beginnings []) = transcript b (beginnings [.advance 1000, .purge]) := by
  have password : ∀ v ∈ beginnings [], v.request.password = "Lovelace#1" := by
    intro v hv
    simp only [beginnings, List.mem_cons, List.not_mem_nil, or_false] at hv
    rcases hv with rfl | rfl | rfl <;> rfl
  obtain ⟨a, starts⟩ : ∃ a, App.start { ({} : Settings) with cache := {} } Disk.empty
      (fun _ => .replicate 16 7) = .ok a := ⟨_, rfl⟩
  obtain ⟨b, starts'⟩ : ∃ b, App.start { ({} : Settings) with cache := ⟨1, 1, 1⟩ } Disk.empty
      (fun _ => .replicate 16 7) = .ok b := ⟨_, rfl⟩
  have requests : (beginnings []).map (·.request) =
      (beginnings [.advance 1000, .purge]).map (·.request) := rfl
  have same := cache_unobservable starts starts' requests fun v hv w hw _ =>
    (password v hv).trans (password w hw).symm
  exact ⟨a, b, starts, starts', same.1⟩
end Http

end MemberAuth
