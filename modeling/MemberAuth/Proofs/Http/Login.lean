import MemberAuth.Proofs.Hash.Hasher
import MemberAuth.Proofs.Http.Sequence
import MemberAuth.Proofs.Service.Registration

/-!
# Logging in after a registration

A member that has just been registered is shown its profile if it gives its login id and password in
headers, provided that the password is ASCII: the bytes of any other password are legal in a header
but not readable, and the request counts as one without a password.
-/
namespace MemberAuth.Http

open Text Store Service Interleaving

/-- The states of the application: newly started on an empty disk, after requests that were carried
out side by side, and started again on the disk that it left. Requests are broken off between two
store calls only. One that is broken off within a call can leave an address reserved for nobody, and
such states are not among these. -/
inductive Reachable : App → Prop
  | start {settings : Settings} {salts : Nat → Hash.Salt} {a : App}
    (started : App.start settings Disk.empty salts = .ok a) : Reachable a
  | requests {a b : App} {tasks : List Task} (before : Reachable a)
    (run : World.Reaches ⟨a, []⟩ ⟨b, tasks⟩) : Reachable b
  | restart {settings : Settings} {salts : Nat → Hash.Salt} {a b : App} (before : Reachable a)
    (started : App.start settings a.shelf.disk salts = .ok b) : Reachable b

/-- Nothing is asked of hashes here, so that the rules may change at a restart. -/
def AnyHash (_ : Date) (_ : String) : Prop := True

theorem issues_anyHash (rules : Rules) : Issues rules AnyHash :=
  fun _ _ _ _ => trivial

theorem Reachable.orderly {a : App} (h : Reachable a) :
    ∃ r, Orderly a.rules AnyHash ⟨a, []⟩ r := by
  induction h with
  | start started => exact ⟨_, orderly_start started (issues_anyHash _)⟩
  | requests before run ih =>
    obtain ⟨r, orderly⟩ := ih
    obtain ⟨r', after⟩ := orderly_of_reaches orderly run
    exact ⟨r', after.unfailing, issues_anyHash _, rfl, after.keeps, after.admits, by simp,
      after.entries⟩
  | restart before started ih =>
    obtain ⟨r, orderly⟩ := ih
    obtain ⟨shelf, cost, opened, _, rfl⟩ := App.start_eq_ok started
    refine ⟨_, rfl, issues_anyHash _, rfl, orderly.keeps.of_openOn opened, ?_, by simp, ?_⟩
    · exact fun _ _ _ => trivial
    · simp [App.newCache, Cache.new]

theorem Reachable.answer {a : App} (h : Reachable a) (r : Request) :
    Reachable (Http.answer a r).1 := by
  obtain ⟨_, orderly⟩ := h.orderly
  have handled : World.Handles (fun _ => True) a (Http.answer a r).1 :=
    World.handles_answer orderly.unfailing r trivial
  obtain ⟨ended, run, _⟩ := handled.reaches []
  exact .requests h run

namespace Request

variable {r : Request} {name text : String}

theorem header?_of_lookup {value : List UInt8} (found : r.headers.lookup name = some value) :
    r.header? name =
      if value.all isReadableByte then
        some (String.ofList (value.map fun b => Char.ofNat b.toNat))
      else none := by
  rw [header?, found]
  rfl

/-- The bytes of an ASCII text, read one by one, are its characters. -/
theorem header?_of_ascii (ascii : ∀ c ∈ text.toList, isAscii c = true)
    (legal : (textBytes text).all isValueByte = true)
    (found : r.headers.lookup name = some (textBytes text)) : r.header? name = some text := by
  have small : ∀ c ∈ text.toList, c.toUInt8.toNat = c.toNat := by
    intro c hc
    have := toNat_lt_of_isAscii (ascii c hc)
    have value : c.toUInt8.toNat = c.toNat % 2 ^ 8 := UInt32.toNat_toUInt8 c.val
    omega
  have readable : (textBytes text).all isReadableByte = true := by
    rw [List.all_eq_true] at legal ⊢
    intro b hb
    have valid := legal b hb
    rw [textBytes_of_ascii ascii] at hb
    obtain ⟨c, hc, rfl⟩ := List.mem_map.mp hb
    have bound := toNat_lt_of_isAscii (ascii c hc)
    rw [← small c hc] at bound
    simp only [isValueByte, isReadableByte, Bool.or_eq_true, Bool.and_eq_true, beq_iff_eq,
      decide_eq_true_eq, bne_iff_ne, ne_eq, UInt8.le_iff_toNat_le, UInt8.lt_iff_toNat_lt,
      ← UInt8.toNat_inj] at valid ⊢
    simp only [UInt8.reduceToNat] at valid ⊢
    omega
  have back : (textBytes text).map (fun b => Char.ofNat b.toNat) = text.toList := by
    rw [textBytes_of_ascii ascii, List.map_map]
    calc text.toList.map ((fun b : UInt8 => Char.ofNat b.toNat) ∘ Char.toUInt8)
        = text.toList.map id := by
          refine List.map_congr_left fun c hc => ?_
          rw [Function.comp_apply, small c hc, Char.ofNat_toNat, id]
      _ = text.toList := List.map_id _
  rw [header?_of_lookup found, if_pos readable, back, String.ofList_toList]

/-- A login id is legal in a header, and readable. -/
theorem header?_of_loginId (valid : LoginId.check text = .ok ())
    (found : r.headers.lookup name = some (textBytes text)) : r.header? name = some text := by
  have letters := (LoginId.check_eq_ok.mp valid).2.2
  have ascii : ∀ c ∈ text.toList, isAscii c = true :=
    fun c hc => isAscii_of_isAsciiAlphanumeric (letters c hc)
  refine header?_of_ascii ascii (List.all_eq_true.mpr fun b hb => ?_) found
  rw [textBytes_of_ascii ascii] at hb
  obtain ⟨c, hc, rfl⟩ := List.mem_map.mp hb
  have each : ∀ n < 128, isAsciiAlphanumeric (Char.ofNat n) = true →
      isValueByte (Char.ofNat n).toUInt8 = true := by decide
  have same := each c.toNat (toNat_lt_of_isAscii (ascii c hc))
  rw [Char.ofNat_toNat] at same
  exact same (letters c hc)

/-- A value with a byte beyond ASCII is not readable. -/
theorem header?_of_not_ascii {c : Char} (hc : c ∈ text.toList) (h : isAscii c = false)
    (found : r.headers.lookup name = some (textBytes text)) : r.header? name = none := by
  obtain ⟨b, hb, high⟩ := exists_high_byte h
  have mem : b ∈ textBytes text := List.mem_flatMap.mpr ⟨c, hc, hb⟩
  have unreadable : isReadableByte b = false := by
    simp only [isReadableByte, Bool.or_eq_false_iff, Bool.and_eq_false_iff, beq_eq_false_iff_ne,
      ne_eq, decide_eq_false_iff_not, UInt8.le_iff_toNat_le, UInt8.lt_iff_toNat_lt,
      ← UInt8.toNat_inj]
    simp only [UInt8.reduceToNat]
    omega
  have refused : (textBytes text).all isReadableByte = false :=
    List.all_eq_false.mpr ⟨b, mem, by simp [unreadable]⟩
  rw [header?_of_lookup found, if_neg (by rw [refused]; exact Bool.false_ne_true)]

end Request

theorem Failure.status_ne (e : Failure) : e.status ≠ 201 := by
  cases e <;> simp [Failure.status]

theorem readBody_status {α : Type} {r : Request} {parse : String → Except Json.ReadError α}
    {response : Response} (h : readBody r parse = .error response) : response.status ≠ 201 := by
  rw [readBody] at h
  split at h
  · cases h
    simp [Response.plain]
  split at h
  · cases h
    simp [Response.plain]
  split at h
  · cases h
  · cases h
    simp [Response.plain]
  · cases h
    simp [Response.plain]

theorem readBody_ok {α : Type} {r : Request} {parse : String → Except Json.ReadError α} {value : α}
    (h : readBody r parse = .ok value) : parse r.body = .ok value := by
  rw [readBody] at h
  split at h
  · cases h
  split at h
  · cases h
  split at h
  · rename_i parsed
    cases h
    exact parsed
  · cases h
  · cases h

/-- A request to register that is answered as created stores the member that its body asks for. -/
theorem register_created {a : App} {post : Request} {registration : Registration}
    (parsed : Registration.parse post.body = .ok registration)
    (created : (register a post).2.status = 201) :
    ∃ m, a.register registration = ((register a post).1, .ok m) ∧
      (register a post).2 = .json 201 m.profile.toJson := by
  rw [register] at created ⊢
  cases body : readBody post Registration.parse with
  | error response =>
    rw [body] at created
    exact absurd created (readBody_status body)
  | ok read =>
    have same := readBody_ok body
    rw [parsed, Except.ok.injEq] at same
    subst same
    rw [body] at created
    dsimp only at created ⊢
    cases result : (a.register registration).2 with
    | error e =>
      rw [result] at created
      exact absurd created (Failure.status_ne e)
    | ok m => exact ⟨m, Prod.ext rfl result, by rw [memberResponse]⟩

theorem answer_register {a : App} {post : Request} (method : post.method = "POST")
    (path : post.path = Route.members.path) : answer a post = register a post := by
  have route : Route.ofPath? Route.members.path = some .members := by decide
  have known : Route.members.methods.contains post.method = true := by
    rw [method]
    decide
  have other : post.method ≠ "HEAD" := by
    rw [method]
    decide
  have routed : answerRoute a .members post = register a post := by
    rw [answerRoute, if_neg (by decide), if_pos known]
  rw [answer, path, route]
  dsimp only
  rw [routed, if_neg other]

/-- A route that needs a member begins with the decision. -/
theorem answer_of_needsMember {a : App} {r : Request} {route : Route}
    (needs : route.needsMember = true) (path : r.path = route.path) (method : r.method ≠ "HEAD") :
    answer a r = respond (a.authenticate r.loginId r.password).1 route r
      (a.authenticate r.loginId r.password).2 := by
  have found : Route.ofPath? route.path = some route := by cases route <;> decide
  rw [answer, path, found]
  dsimp only
  rw [answerRoute_of_needsMember needs, if_neg method]

theorem answer_profile {a : App} {get : Request} (method : get.method = "GET")
    (path : get.path = Route.profile.path) :
    answer a get = respond (a.authenticate get.loginId get.password).1 .profile get
      (a.authenticate get.loginId get.password).2 := by
  apply answer_of_needsMember rfl path
  rw [method]
  decide

/-- A request with a known method needs no mark. -/
theorem respond_profile {a : App} {get : Request} (method : get.method = "GET")
    (result : Except AuthFailure Identity) :
    (respond a .profile get result).2 =
      match result with
      | .error e => .ofFailure e.toFailure
      | .ok who => memberResponse 200 (a.getMember who.loginId).2 := by
  have known : Route.profile.methods.contains get.method = true := by
    rw [method]
    decide
  cases result with
  | error e => exact if_pos known
  | ok who =>
    rw [respond, if_pos known]
    rfl

section Decision

variable {a : App} {r : Roster} {loginId password : String} {m : Member}

theorem getMember_stored (unfailing : a.faults = .none) (keeps : a.shelf.Keeps r)
    (stored : r.members[loginId]? = some m) : (a.getMember loginId).2 = .ok m := by
  rw [App.getMember, Service.getMember, App.serve, Script.run_bind, ServiceScript.find,
    Script.run_ask, App.perform_find unfailing, keeps.find, stored]
  rfl

/-- A member whose hash accepts the password is let in, from the cache or from the store. -/
theorem authenticate_stored (unfailing : a.faults = .none) (keeps : a.shelf.Keeps r)
    (entries : ∀ (loginId : String) (slot : Slot), a.gate.cache.slots[loginId]? = some slot →
      slot.credential.identity.loginId = loginId)
    (stored : r.members[loginId]? = some m)
    (accepts : a.rules.hasher.verify m.passwordHash password = true)
    (present : allBlank loginId = false) (given : allBlank password = false) :
    ∃ gate who, a.authenticate loginId password = ({ a with gate }, .ok who) ∧
      who.loginId = loginId := by
  have filled : ¬ (allBlank loginId || allBlank password) = true := by
    rw [present, given]
    decide
  rw [App.authenticate]
  rcases a.gate.openRequest_of_not_blank a.now filled with
    ⟨gate, who, opened⟩ | ⟨gate, epoch, opened⟩
  · obtain ⟨slot, resident, credential⟩ := Gate.openRequest_ok opened
    have own := entries loginId slot resident
    rw [credential] at own
    rw [opened]
    exact ⟨gate, who, rfl, own⟩
  · have own := (keeps.own loginId m stored).1
    have verdict : verdictOn a.rules password (a.shelf.find loginId) = .ok m.identity := by
      rw [keeps.find, stored]
      exact verdictOn_eq_ok.mpr ⟨m, rfl, accepts, rfl⟩
    have asked := App.verify_eq_verdictOn (a := { a with gate }) unfailing loginId password
    rw [opened]
    dsimp only
    rw [asked]
    dsimp only
    rw [verdict]
    exact ⟨_, m.identity, rfl, own⟩

end Decision

/-- A registration that was answered as created, and the look-up of the own profile that follows it
with the same login id and password in its headers. -/
structure FirstLogin (registration : Registration) (post get : Request) : Prop where
  posted : post.method = "POST" ∧ post.path = Route.members.path
  parsed : Registration.parse post.body = .ok registration
  got : get.method = "GET" ∧ get.path = Route.profile.path
  named : get.headers.lookup loginIdHeader = some (textBytes registration.loginId)
  given : get.headers.lookup passwordHeader = some (textBytes registration.password)
  legal : (textBytes registration.password).all Request.isValueByte = true

namespace FirstLogin

variable {a : App} {registration : Registration} {post get : Request}

/-- Without a readable password there is nothing to decide on. -/
theorem refused (h : FirstLogin registration post get)
    (other : registration.password.toList.all isAscii = false) :
    (Http.answer a get).2 = .ofFailure .missingCredentials := by
  obtain ⟨c, hc, high⟩ := List.all_eq_false.mp other
  have password : get.password = "" := by
    rw [Request.password, Request.header?_of_not_ascii hc (Bool.eq_false_iff.mpr high) h.given]
    rfl
  have blank : (allBlank get.loginId || allBlank get.password) = true := by
    rw [password]
    exact Bool.or_true _
  have decided := a.gate.openRequest_of_blank a.now blank
  rw [answer_profile h.got.1 h.got.2, respond_profile h.got.1, App.authenticate, decided]
  rfl

/-- With a readable password that its hash accepts, a stored member is shown its profile. -/
theorem shown (h : FirstLogin registration post get) {r : Roster} {m : Member}
    (unfailing : a.faults = .none) (keeps : a.shelf.Keeps r)
    (entries : ∀ (loginId : String) (slot : Slot), a.gate.cache.slots[loginId]? = some slot →
      slot.credential.identity.loginId = loginId)
    (stored : r.members[registration.loginId]? = some m)
    (accepts : a.rules.hasher.verify m.passwordHash registration.password = true)
    (given : allBlank registration.password = false)
    (ascii : registration.password.toList.all isAscii = true) :
    (Http.answer a get).2 = .json 200 m.profile.toJson := by
  have valid := (keeps.own _ m stored).2
  have loginId : get.loginId = registration.loginId := by
    rw [Request.loginId, Request.header?_of_loginId valid h.named]
    rfl
  have password : get.password = registration.password := by
    rw [Request.password, Request.header?_of_ascii (List.all_eq_true.mp ascii) h.legal h.given]
    rfl
  obtain ⟨gate, who, decided, same⟩ := authenticate_stored unfailing keeps entries stored accepts
    (LoginId.not_blank_of_check valid) given
  rw [answer_profile h.got.1 h.got.2, respond_profile h.got.1, loginId, password, decided]
  dsimp only
  rw [same, getMember_stored (a := { a with gate }) unfailing keeps stored]
  rfl

/-- Whoever registers with an ASCII password is shown the same profile with it right afterwards, in
every state of the application and whatever the cache holds. With any other password the member is
refused. -/
theorem answered (h : FirstLogin registration post get) (reachable : Reachable a)
    (created : (Http.answer a post).2.status = 201) :
    (Http.answer (Http.answer a post).1 get).2 =
      if registration.password.toList.all isAscii then
        { (Http.answer a post).2 with status := 200 }
      else .ofFailure .missingCredentials := by
  obtain ⟨r, orderly⟩ := reachable.orderly
  have unfailing : a.faults = .none := orderly.unfailing
  have keeps : a.shelf.Keeps r := orderly.keeps
  rw [answer_register h.posted.1 h.posted.2] at created ⊢
  obtain ⟨m, registered, response⟩ := register_created h.parsed created
  obtain ⟨admission, checked, made, stored⟩ :=
    App.register_eq_ok unfailing keeps (congrArg Prod.snd registered)
  have after := (App.register_stored unfailing keeps checked).2
  have fields := checkRegistration_eq_ok.mp checked
  rw [registered] at after
  rw [response]
  generalize (register a post).1 = b at after ⊢
  by_cases ascii : registration.password.toList.all isAscii = true
  · have own : m.loginId = registration.loginId := by
      rw [made]
      exact fields.1
    have accepts : b.rules.hasher.verify m.passwordHash registration.password = true := by
      rw [made]
      exact (Hash.Hasher.verify_hash _ _ _ _ _).mpr rfl
    have entries : ∀ (loginId : String) (slot : Slot), b.gate.cache.slots[loginId]? = some slot →
        slot.credential.identity.loginId = loginId := by
      rw [after.cache]
      exact orderly.entries
    rw [own] at stored
    rw [if_pos ascii]
    exact h.shown after.unfailing after.keeps entries stored accepts
      (Policy.not_blank_of_validate fields.2.2.2) ascii
  · rw [if_neg ascii]
    exact h.refused (Bool.eq_false_iff.mpr ascii)

end FirstLogin

def adaPost (password : String) : Request :=
  ⟨"POST", Route.members.path, [("content-type", textBytes "application/json")],
    (App.adaRegistration password).toJson⟩

def adaGet (password : String) : Request :=
  ⟨"GET", Route.profile.path,
    [(loginIdHeader, textBytes "ada"), (passwordHeader, textBytes password)], ""⟩

theorem firstLogin_ada {password : String}
    (legal : (textBytes password).all Request.isValueByte = true) :
    FirstLogin (App.adaRegistration password) (adaPost password) (adaGet password) :=
  ⟨⟨rfl, rfl⟩, Registration.parse_toJson _, ⟨rfl, rfl⟩, rfl, rfl, legal⟩

theorem readBody_json {α : Type} {r : Request} {parse : String → Except Json.ReadError α} {value : α}
    (json : r.headers.lookup "content-type" = some (textBytes "application/json"))
    (fits : r.body.utf8ByteSize ≤ maxBodyLength) (parsed : parse r.body = .ok value) :
    readBody r parse = .ok value := by
  have json : (r.header? "content-type").any MediaType.isJson = true := by
    have ascii : "application/json".toList.all isAscii = true := by decide
    rw [Request.header?_of_ascii (List.all_eq_true.mp ascii) (by decide) json]
    decide +kernel
  rw [readBody, json, parsed]
  simp [Nat.not_lt.mpr fits]

theorem created_ada {password : String}
    (valid : Policy.validate .requireAllClasses App.adaBirthDate password = .ok ())
    (fits : (adaPost password).body.utf8ByteSize ≤ maxBodyLength) :
    (answer App.standard (adaPost password)).2.status = 201 := by
  obtain ⟨b, _, registered, _⟩ := App.register_ada ⟨17, 8, 1, rfl⟩ valid
  have body : readBody (adaPost password) Registration.parse =
      .ok (App.adaRegistration password) := readBody_json rfl fits (Registration.parse_toJson _)
  rw [answer_register rfl rfl, register, body, App.standard]
  dsimp only
  rw [registered]
  rfl

theorem reachable_standard : Reachable App.standard :=
  .start App.start_standard

/-- A member with an ASCII password is let in. -/
theorem first_login_shown :
    FirstLogin (App.adaRegistration "Lovelace#1815Ada") (adaPost "Lovelace#1815Ada")
        (adaGet "Lovelace#1815Ada") ∧
      (answer App.standard (adaPost "Lovelace#1815Ada")).2.status = 201 ∧
      (answer (answer App.standard (adaPost "Lovelace#1815Ada")).1 (adaGet "Lovelace#1815Ada")).2 =
        { (answer App.standard (adaPost "Lovelace#1815Ada")).2 with status := 200 } := by
  have legal : (textBytes "Lovelace#1815Ada").all Request.isValueByte = true := by decide
  have login := firstLogin_ada legal
  have fits : (adaPost "Lovelace#1815Ada").body.utf8ByteSize ≤ maxBodyLength := by decide +kernel
  have created := created_ada (by decide +kernel) fits
  have shown := login.answered reachable_standard created
  exact ⟨login, created, shown.trans (if_pos (by decide))⟩

/-- A member with another password is registered, and then refused with that very password. -/
theorem first_login_refused :
    Reachable App.standard ∧
      FirstLogin (App.adaRegistration "Pässword1!") (adaPost "Pässword1!") (adaGet "Pässword1!") ∧
      (answer App.standard (adaPost "Pässword1!")).2.status = 201 ∧
      (answer (answer App.standard (adaPost "Pässword1!")).1 (adaGet "Pässword1!")).2.status =
        401 := by
  have legal : (textBytes "Pässword1!").all Request.isValueByte = true := by decide
  have login := firstLogin_ada legal
  have fits : (adaPost "Pässword1!").body.utf8ByteSize ≤ maxBodyLength := by decide +kernel
  have created := created_ada (by decide +kernel) fits
  have other : (App.adaRegistration "Pässword1!").password.toList.all isAscii = false := by decide
  exact ⟨reachable_standard, login, created, congrArg Response.status (login.refused other)⟩

end MemberAuth.Http
