import MemberAuth.Proofs.Http.Sequence
import MemberAuth.Proofs.Service.Registration
import MemberAuth.Proofs.Store.Lockstep

/-!
# The last character of a name does not show

Two applications whose stored members differ in the last characters of their names, and in nothing
else, give the same responses to the same requests. They go on to differ in that and in nothing
else, as each member keeps its own name when its document is written again.
-/
namespace MemberAuth

namespace Service

/-- Calls that alike applications answer in the same way. What is found may differ. -/
inductive Call.Matched : (c c' : Call) → (c.Reply → c'.Reply → Prop) → Prop
  | find (loginId : String) :
    Matched (.find loginId) (.find loginId) (ResultAlike (Option.Rel Member.Alike))
  | same (c : Call) (blind : ∀ loginId, c ≠ .find loginId) : Matched c c Eq

/-- Two operations take the same course on alike applications. -/
abbrev Lockstep {α α' : Type} (Ends : α → α' → Prop) (x : ServiceScript α) (y : ServiceScript α') :
    Prop :=
  Script.Lockstep Call.Matched Ends x y

theorem Lockstep.same {c : Call} (blind : ∀ loginId, c ≠ .find loginId) :
    Lockstep Eq (.ask c : ServiceScript c.Reply) (.ask c) :=
  .ask (.same c blind)

theorem Lockstep.find (loginId : String) :
    Lockstep (ResultAlike (Option.Rel Member.Alike)) (ServiceScript.find loginId)
      (ServiceScript.find loginId) :=
  @Script.Lockstep.ask Call Call.Reply Call.Matched _ _ _ (.find loginId)

/-- A registration gives the same member, as it reads none. -/
theorem lockstep_register (rules : Rules) (r : Registration) :
    Lockstep (ResultAlike Member.Alike) (register rules r) (register rules r) := by
  rw [register]
  cases checkRegistration rules r with
  | error e => exact .pure (.error e)
  | ok admission =>
    refine (Lockstep.same (by simp)).bind_same fun salt => ?_
    refine (Lockstep.same (by simp)).bind_same fun inserted => ?_
    cases inserted with
    | error e => exact .pure (.error e)
    | ok m => exact (Lockstep.same (by simp)).bind_same fun _ => .pure (.ok (.refl m))

theorem lockstep_getMember (loginId : String) :
    Lockstep (ResultAlike Member.Alike) (getMember loginId) (getMember loginId) := by
  refine (Lockstep.find loginId).bind fun _ _ found => ?_
  cases found with
  | error e => exact .pure (.error e)
  | ok found =>
    cases found with
    | none => exact .pure (.error _)
    | some members => exact .pure (.ok members)

/-- No check of a change looks at the name. -/
theorem checkChange_of_alike {m m' : Member} (members : m.Alike m') (rules : Rules)
    (current new : String) :
    checkChange rules m' current new = checkChange rules m current new := by
  rw [checkChange, members.passwordHash, members.birthDate]
  rfl

theorem lockstep_changePassword (rules : Rules) (loginId current new : String) :
    Lockstep (ResultAlike Member.Alike) (changePassword rules loginId current new)
      (changePassword rules loginId current new) := by
  refine (Lockstep.find loginId).bind fun _ _ found => ?_
  cases found with
  | error e => exact .pure (.error e)
  | ok found =>
    cases found with
    | none => exact .pure (.error _)
    | @some m m' members =>
      dsimp only
      rw [checkChange_of_alike members]
      cases checkChange rules m current new with
      | error e => exact .pure (.error e)
      | ok u =>
        refine (Lockstep.same (by simp)).bind_same fun salt => ?_
        refine (Lockstep.same (by simp)).bind_same fun updated => ?_
        cases updated with
        | error e => exact .pure (.error e)
        | ok u =>
          refine (Lockstep.same (by simp)).bind_same fun _ => ?_
          exact (Lockstep.same (by simp)).bind_same fun _ => .pure (.ok (members.rehash _))

theorem lockstep_verify (rules : Rules) (loginId password : String) :
    Lockstep Eq (verify rules loginId password) (verify rules loginId password) := by
  refine (Lockstep.find loginId).bind fun _ _ found => ?_
  cases found with
  | error e => exact .pure rfl
  | ok found =>
    cases found with
    | none => exact .pure rfl
    | some members =>
      dsimp only
      rw [members.passwordHash, members.identity]
      split
      · exact .pure rfl
      · exact .pure rfl

end Service

namespace App

open Service

/-- Settles a decision by what the store has said. -/
def settle (a : App) (loginId password : String) (epoch : Nat)
    (verdict : Except VerifyFailure Identity) : App × Except AuthFailure Identity :=
  let (gate, result) := a.gate.closeRequest a.now loginId password epoch verdict
  ({ a with gate }, result)

theorem authenticate_of_pending {a : App} {loginId password : String} {gate : Gate} {epoch : Nat}
    (opened : a.gate.openRequest a.now loginId password = (gate, .pending epoch)) :
    a.authenticate loginId password =
      (verify { a with gate } loginId password).1.settle loginId password epoch
        (verify { a with gate } loginId password).2 := by
  rw [authenticate, opened]
  rfl

/-- Two applications with stores that are alike, and the same otherwise. -/
def Alike (a b : App) : Prop :=
  ∃ shelf, a.shelf.Alike shelf ∧ b = { a with shelf }

namespace Alike

variable {a b : App}

theorem onStore (h : a.Alike b) {α α' : Type} {Ends : α → α' → Prop} {x : Store.FileScript α}
    {y : Store.FileScript α'} (scripts : Store.Lockstep Ends x y) :
    (a.onStore x).1.Alike (b.onStore y).1 ∧ Ends (a.onStore x).2 (b.onStore y).2 := by
  obtain ⟨shelf, shelves, rfl⟩ := h
  obtain ⟨shelves', ends⟩ := scripts.run Store.Shelf.Alike.perform shelves
  exact ⟨⟨_, shelves', rfl⟩, ends⟩

theorem perform (h : a.Alike b) {c c' : Call} {Replies : c.Reply → c'.Reply → Prop}
    (matched : Call.Matched c c' Replies) :
    (a.perform c).1.Alike (b.perform c').1 ∧ Replies (a.perform c).2 (b.perform c').2 := by
  have alike := h
  obtain ⟨shelf, shelves, rfl⟩ := h
  cases matched with
  | find loginId =>
    rw [App.perform, App.perform]
    dsimp only
    cases a.faults.onFind with
    | nil => exact alike.onStore (Store.lockstep_find loginId)
    | cons e rest => exact ⟨⟨shelf, shelves, rfl⟩, .error e⟩
  | same c blind =>
    cases c with
    | find loginId => exact absurd rfl (blind loginId)
    | insert m =>
      rw [App.perform, App.perform]
      dsimp only
      cases a.faults.onInsert with
      | nil => exact alike.onStore (Store.lockstep_insert m)
      | cons e rest => exact ⟨⟨shelf, shelves, rfl⟩, rfl⟩
    | update loginId passwordHash =>
      rw [App.perform, App.perform]
      dsimp only
      cases a.faults.onUpdate with
      | nil => exact alike.onStore (Store.lockstep_update loginId passwordHash)
      | cons e rest => exact ⟨⟨shelf, shelves, rfl⟩, rfl⟩
    | salt => exact ⟨⟨shelf, shelves, rfl⟩, rfl⟩
    | evict loginId => exact ⟨⟨shelf, shelves, rfl⟩, rfl⟩
    | count k => exact ⟨⟨shelf, shelves, rfl⟩, rfl⟩

theorem serve (h : a.Alike b) {α α' : Type} {Ends : α → α' → Prop} {x : ServiceScript α}
    {y : ServiceScript α'} (scripts : Service.Lockstep Ends x y) :
    (a.serve x).1.Alike (b.serve y).1 ∧ Ends (a.serve x).2 (b.serve y).2 :=
  scripts.run perform h

theorem rules (h : a.Alike b) : b.rules = a.rules := by
  obtain ⟨shelf, _, rfl⟩ := h
  rfl

theorem regate (h : a.Alike b) (gate : Gate) : Alike { a with gate } { b with gate } := by
  obtain ⟨shelf, shelves, rfl⟩ := h
  exact ⟨shelf, shelves, rfl⟩

theorem gate (h : a.Alike b) : b.gate = a.gate := by
  obtain ⟨shelf, _, rfl⟩ := h
  rfl

theorem now (h : a.Alike b) : b.now = a.now := by
  obtain ⟨shelf, _, rfl⟩ := h
  rfl

theorem register (h : a.Alike b) (r : Registration) :
    (a.register r).1.Alike (b.register r).1 ∧
      ResultAlike Member.Alike (a.register r).2 (b.register r).2 := by
  rw [App.register, App.register, h.rules]
  exact h.serve (lockstep_register a.rules r)

theorem changePassword (h : a.Alike b) (loginId current new : String) :
    (a.changePassword loginId current new).1.Alike (b.changePassword loginId current new).1 ∧
      ResultAlike Member.Alike (a.changePassword loginId current new).2
        (b.changePassword loginId current new).2 := by
  rw [App.changePassword, App.changePassword, h.rules]
  exact h.serve (lockstep_changePassword a.rules loginId current new)

theorem verify (h : a.Alike b) (loginId password : String) :
    (a.verify loginId password).1.Alike (b.verify loginId password).1 ∧
      (a.verify loginId password).2 = (b.verify loginId password).2 := by
  rw [App.verify, App.verify, h.rules]
  exact h.serve (lockstep_verify a.rules loginId password)

theorem settle (h : a.Alike b) (loginId password : String) (epoch : Nat)
    (verdict : Except VerifyFailure Identity) :
    (a.settle loginId password epoch verdict).1.Alike (b.settle loginId password epoch verdict).1 ∧
      (a.settle loginId password epoch verdict).2 =
        (b.settle loginId password epoch verdict).2 := by
  have same : b.gate.closeRequest b.now loginId password epoch verdict =
      a.gate.closeRequest a.now loginId password epoch verdict := by rw [h.gate, h.now]
  rw [App.settle, App.settle, same]
  obtain ⟨gate, result⟩ := a.gate.closeRequest a.now loginId password epoch verdict
  exact ⟨h.regate gate, rfl⟩

theorem authenticate (h : a.Alike b) (loginId password : String) :
    (a.authenticate loginId password).1.Alike (b.authenticate loginId password).1 ∧
      (a.authenticate loginId password).2 = (b.authenticate loginId password).2 := by
  have same : b.gate.openRequest b.now loginId password =
      a.gate.openRequest a.now loginId password := by rw [h.gate, h.now]
  cases opened : a.gate.openRequest a.now loginId password with
  | mk gate opening =>
    cases opening with
    | decided result =>
      rw [App.authenticate, App.authenticate, same, opened]
      exact ⟨h.regate gate, rfl⟩
    | pending epoch =>
      rw [authenticate_of_pending opened, authenticate_of_pending (same.trans opened)]
      obtain ⟨asked, verdict⟩ := (h.regate gate).verify loginId password
      rw [verdict]
      exact asked.settle loginId password epoch _

end Alike

/-- Every member that was stored is stored with its own name, and all else but the hash. -/
def KeepsNames (a b : App) : Prop :=
  ∀ (loginId : String) (m : Member), a.shelf.find loginId = .ok (some m) →
    ∃ passwordHash, b.shelf.find loginId = .ok (some { m with passwordHash })

namespace KeepsNames

variable {a b c : App}

theorem of_shelf (h : b.shelf = a.shelf) : a.KeepsNames b := by
  intro loginId m stored
  exact ⟨m.passwordHash, by rwa [h]⟩

theorem trans (hab : a.KeepsNames b) (hbc : b.KeepsNames c) : a.KeepsNames c := by
  intro loginId m stored
  obtain ⟨_, stored⟩ := hab loginId m stored
  obtain ⟨passwordHash, stored⟩ := hbc loginId _ stored
  exact ⟨passwordHash, stored⟩

theorem perform (a : App) (c : Call) : a.KeepsNames (a.perform c).1 := by
  intro loginId m stored
  by_cases changed : ∃ passwordHash, c = .update loginId passwordHash ∧
      (a.perform (.update loginId passwordHash)).2 = .ok ()
  · obtain ⟨passwordHash, rfl, done⟩ := changed
    obtain ⟨m', found, rehashed⟩ := a.find_of_perform_update done
    obtain rfl : m = m' := by
      rw [stored] at found
      cases found
      rfl
    exact ⟨passwordHash, rehashed⟩
  · refine ⟨m.passwordHash, a.find_of_perform stored fun passwordHash updates => ?_⟩
    cases result : (a.perform (.update loginId passwordHash)).2 with
    | error e => exact ⟨e, rfl⟩
    | ok u => exact absurd ⟨passwordHash, updates, result⟩ changed

theorem serve {α : Type} (a : App) (script : ServiceScript α) :
    a.KeepsNames (a.serve script).1 := by
  induction script generalizing a with
  | done result => exact of_shelf rfl
  | call c next ih => exact (perform a c).trans (ih _ _)

theorem authenticate (a : App) (loginId password : String) :
    a.KeepsNames (a.authenticate loginId password).1 := by
  cases opened : a.gate.openRequest a.now loginId password with
  | mk gate opening =>
    cases opening with
    | decided result =>
      rw [App.authenticate, opened]
      exact of_shelf rfl
    | pending epoch =>
      rw [authenticate_of_pending opened]
      exact serve { a with gate } (Service.verify a.rules loginId password)

end KeepsNames

end App

namespace Http

open Service

variable {a b : App}

/-- Both applications answer in the same way, and stay alike. -/
def SameAnswer (x y : App × Response) : Prop :=
  x.1.Alike y.1 ∧ x.2 = y.2

/-- A response shows of a member what its profile has, and so no more of the name than the mask. -/
theorem memberResponse_eq {result result' : Except Failure Member}
    (h : ResultAlike Member.Alike result result') (status : Nat) :
    memberResponse status result = memberResponse status result' := by
  cases h with
  | error e => rfl
  | ok members => rw [memberResponse, memberResponse, members.profile]

theorem sameAnswer_register (h : a.Alike b) (r : Request) :
    SameAnswer (register a r) (register b r) := by
  rw [register, register]
  split
  · exact ⟨h, rfl⟩
  · rename_i registration _
    obtain ⟨alike, results⟩ := h.register registration
    exact ⟨alike, memberResponse_eq results 201⟩

theorem sameAnswer_answerMember (h : a.Alike b) (route : Route) (who : Identity) (r : Request) :
    SameAnswer (answerMember a route who r) (answerMember b route who r) := by
  have shown : SameAnswer (showProfile a who) (showProfile b who) := by
    obtain ⟨alike, results⟩ := h.serve (lockstep_getMember who.loginId)
    exact ⟨alike, memberResponse_eq results 200⟩
  cases route with
  | members => exact shown
  | profile => exact shown
  | password =>
    change SameAnswer (changePassword a who r) (changePassword b who r)
    rw [changePassword, changePassword]
    split
    · exact ⟨h, rfl⟩
    · rename_i change _
      obtain ⟨alike, results⟩ :=
        h.changePassword who.loginId change.currentPassword change.newPassword
      exact ⟨alike, memberResponse_eq results 200⟩

theorem sameAnswer_respond (h : a.Alike b) (route : Route) (r : Request)
    (result : Except AuthFailure Identity) :
    SameAnswer (respond a route r result) (respond b route r result) := by
  cases result with
  | error e => exact ⟨h, rfl⟩
  | ok who =>
    rw [respond, respond]
    split
    · exact sameAnswer_answerMember h route who r
    · exact ⟨h, rfl⟩

theorem sameAnswer_answerRoute (h : a.Alike b) (route : Route) (r : Request) :
    SameAnswer (answerRoute a route r) (answerRoute b route r) := by
  by_cases needs : route.needsMember = true
  · rw [answerRoute_of_needsMember needs, answerRoute_of_needsMember needs]
    obtain ⟨decided, result⟩ := h.authenticate r.loginId r.password
    rw [result]
    exact sameAnswer_respond decided route r _
  rw [answerRoute, answerRoute, if_neg needs, if_neg needs]
  split
  · exact sameAnswer_register h r
  · exact ⟨h, rfl⟩

theorem sameAnswer_answer (h : a.Alike b) (r : Request) :
    SameAnswer (answer a r) (answer b r) := by
  rw [answer, answer]
  split
  · exact ⟨h, rfl⟩
  · rename_i route _
    obtain ⟨alike, response⟩ := sameAnswer_answerRoute h route r
    refine ⟨alike, ?_⟩
    change (if _ then _ else _) = (if _ then _ else _)
    rw [response]

theorem alike_ready (h : a.Alike b) (v : Visit) : (v.ready a).Alike (v.ready b) := by
  rw [Visit.ready, Visit.ready]
  induction v.before generalizing a b with
  | nil => exact h
  | cons p rest ih =>
    refine ih ?_
    obtain ⟨shelf, shelves, rfl⟩ := h
    cases p with
    | advance duration => exact ⟨shelf, shelves, rfl⟩
    | purge => exact ⟨shelf, shelves, rfl⟩

theorem alike_afterVisits (h : a.Alike b) (visits : List Visit) :
    (afterVisits a visits).Alike (afterVisits b visits) := by
  induction visits generalizing a b with
  | nil => exact h
  | cons v rest ih => exact ih (sameAnswer_answer (alike_ready h v) v.request).1

/-- The responses of a run. -/
def responses (a : App) (visits : List Visit) : List Response :=
  (transcript a visits).map (·.1)

theorem responses_eq (h : a.Alike b) (visits : List Visit) :
    responses a visits = responses b visits := by
  induction visits generalizing a b with
  | nil => rfl
  | cons v rest ih =>
    obtain ⟨alike, response⟩ := sameAnswer_answer (alike_ready h v) v.request
    have further := ih alike
    rw [responses, responses, transcript_cons, transcript_cons, List.map_cons, List.map_cons,
      response]
    exact congrArg _ further

open App (KeepsNames)

theorem keepsNames_respond (a : App) (route : Route) (r : Request)
    (result : Except AuthFailure Identity) : a.KeepsNames (respond a route r result).1 := by
  cases result with
  | error e => exact .of_shelf rfl
  | ok who =>
    have shown : a.KeepsNames (showProfile a who).1 := .serve a (getMember who.loginId)
    rw [respond]
    split
    · cases route with
      | members => exact shown
      | profile => exact shown
      | password =>
        rw [answerMember, changePassword]
        split
        · exact .of_shelf rfl
        · exact .serve a _
    · exact .of_shelf rfl

theorem keepsNames_answer (a : App) (r : Request) : a.KeepsNames (answer a r).1 := by
  rw [answer]
  split
  · exact .of_shelf rfl
  rename_i route _
  change a.KeepsNames (answerRoute a route r).1
  by_cases needs : route.needsMember = true
  · rw [answerRoute_of_needsMember needs]
    exact (KeepsNames.authenticate a _ _).trans (keepsNames_respond _ route r _)
  rw [answerRoute, if_neg needs]
  split
  · rw [register]
    split
    · exact .of_shelf rfl
    · exact .serve a _
  · exact .of_shelf rfl

theorem ready_shelf (a : App) (v : Visit) : (v.ready a).shelf = a.shelf := by
  rw [Visit.ready]
  induction v.before generalizing a with
  | nil => rfl
  | cons p rest ih =>
    rw [List.foldl_cons, ih]
    cases p <;> rfl

theorem keepsNames_afterVisits (a : App) (visits : List Visit) :
    a.KeepsNames (afterVisits a visits) := by
  induction visits generalizing a with
  | nil => exact .of_shelf rfl
  | cons v rest ih =>
    have ready : a.KeepsNames (v.ready a) := .of_shelf (ready_shelf a v)
    exact (ready.trans (keepsNames_answer _ v.request)).trans (ih _)

/-- Whatever is stored and whatever failures wait, two applications that differ in last characters
of names give the same responses to the same requests with the same pauses in between. They end up
differing in last characters of names again, and neither changes a name. -/
theorem last_character_undisclosed (h : a.Alike b) (visits : List Visit) :
    responses a visits = responses b visits ∧
      (afterVisits a visits).Alike (afterVisits b visits) ∧
      a.KeepsNames (afterVisits a visits) ∧ b.KeepsNames (afterVisits b visits) :=
  ⟨responses_eq h visits, alike_afterVisits h visits, keepsNames_afterVisits a visits,
    keepsNames_afterVisits b visits⟩

/-- A new application on a disk with the document of a member. -/
def holding (m : Member) : App :=
  App.standard.onDisk fun d => d.set (Store.documentPath m.loginId) (.file m.document)

theorem alike_holding {m m' : Member} (h : m.Alike m') : (holding m).Alike (holding m') := by
  have loginId : m'.loginId = m.loginId := by rw [h.rest]
  have disks := (Disk.Alike.refl App.standard.shelf.disk).set (Store.documentPath m.loginId)
    (.file h.document)
  rw [holding, holding, loginId]
  exact ⟨_, ⟨_, disks, rfl⟩, rfl⟩

/-- Ada looks at her profile, and so does she under the name of Adé. -/
theorem last_character_undisclosed_in_profile : ∃ a b m, a.Alike b ∧
    a.shelf.find "ada" = .ok (some m) ∧ m.name = "Ada" ∧
    b.shelf.find "ada" = .ok (some { m with name := "Adé" }) ∧
    let headers := [(loginIdHeader, Text.textBytes "ada"),
      (passwordHeader, Text.textBytes "Lovelace#1")]
    let visits : List Visit := [⟨[.advance 1000], ⟨"GET", Route.profile.path, headers, ""⟩⟩]
    responses a visits = responses b visits := by
  have names : SameButLast "Ada" "Adé" := .last ['A', 'd'] 'a' 'é'
  generalize ada : App.adaMember ⟨17, 8, 1, rfl⟩ "Lovelace#1" = m
  have name : m.name = "Ada" := by rw [← ada]; rfl
  have loginId : m.loginId = "ada" := by rw [← ada]; rfl
  have members : m.Alike { m with name := "Adé" } := ⟨rfl, by rwa [name]⟩
  have found (m : Member) (own : m.loginId = "ada") :
      (holding m).shelf.find "ada" = .ok (some m) := by
    refine Store.Shelf.find_of_document rfl ?_
    rw [holding, ← own]
    exact (Disk.entry?_set _ (by simp [Store.documentPath]) _ _).trans (if_pos rfl)
  refine ⟨holding m, holding { m with name := "Adé" }, m, alike_holding members, found m loginId,
    name, found _ loginId, ?_⟩
  exact (last_character_undisclosed (alike_holding members) _).1

end Http

end MemberAuth
