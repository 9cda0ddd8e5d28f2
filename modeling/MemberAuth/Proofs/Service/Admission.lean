import MemberAuth.Proofs.Http.Login
import MemberAuth.Proofs.Service.Footprint

/-!
# Which registrations are admitted

A registration is admitted if its fields read, the policy accepts its password, and neither its
address nor its login id is taken; otherwise the first of these that fails is the answer. An
admitted member is stored as it was asked for, with a hash that lets it in. A registration that is
not admitted leaves no trace, though before a taken login id is noticed the address has been
reserved.
-/
namespace MemberAuth

open Store

namespace Service

variable {rules : Rules} {r : Registration}

/-- The first thing wrong with a registration in itself. -/
inductive Refuses (rules : Rules) (r : Registration) : Failure → Prop
  | loginId {e} (wrong : LoginId.parse r.loginId = .error e) : Refuses rules r (.invalidField e)
  | name {l e} (loginId : LoginId.parse r.loginId = .ok l)
    (wrong : MemberName.parse r.name = .error e) : Refuses rules r (.invalidField e)
  | email {l n e} (loginId : LoginId.parse r.loginId = .ok l)
    (name : MemberName.parse r.name = .ok n) (wrong : Email.parse r.email = .error e) :
    Refuses rules r (.invalidField e)
  | password {l n a violation} (loginId : LoginId.parse r.loginId = .ok l)
    (name : MemberName.parse r.name = .ok n) (email : Email.parse r.email = .ok a)
    (wrong : Policy.validate rules.characterRule r.birthDate r.password = .error violation) :
    Refuses rules r (.policy violation)

/-- Nothing is wrong with a registration in itself. -/
structure Passes (rules : Rules) (r : Registration) : Prop where
  loginId : ∃ field, LoginId.parse r.loginId = .ok field
  name : ∃ field, MemberName.parse r.name = .ok field
  email : ∃ field, Email.parse r.email = .ok field
  password : Policy.validate rules.characterRule r.birthDate r.password = .ok ()

theorem checkRegistration_eq_error {e : Failure} :
    checkRegistration rules r = .error e ↔ Refuses rules r e := by
  simp only [checkRegistration, bind_eq_error, mapError_eq_error, mapError_eq_ok]
  constructor
  · rintro (⟨_, wrong, rfl⟩ | ⟨_, loginId, ⟨_, wrong, rfl⟩ | ⟨_, name, ⟨_, wrong, rfl⟩ |
      ⟨_, email, ⟨_, wrong, rfl⟩ | ⟨_, _, passed⟩⟩⟩⟩)
    · exact .loginId wrong
    · exact .name loginId wrong
    · exact .email loginId name wrong
    · exact .password loginId name email wrong
    · cases passed
  · intro refused
    cases refused with
    | loginId wrong => exact Or.inl ⟨_, wrong, rfl⟩
    | name loginId wrong => exact Or.inr ⟨_, loginId, Or.inl ⟨_, wrong, rfl⟩⟩
    | email loginId name wrong =>
      exact Or.inr ⟨_, loginId, Or.inr ⟨_, name, Or.inl ⟨_, wrong, rfl⟩⟩⟩
    | password loginId name email wrong =>
      exact Or.inr ⟨_, loginId, Or.inr ⟨_, name, Or.inr ⟨_, email, Or.inl ⟨_, wrong, rfl⟩⟩⟩⟩

theorem passes_iff : Passes rules r ↔ ∃ admission, checkRegistration rules r = .ok admission := by
  simp only [checkRegistration_eq_ok]
  constructor
  · rintro ⟨⟨loginId, hl⟩, ⟨name, hn⟩, ⟨email, he⟩, valid⟩
    exact ⟨⟨loginId, name, email⟩, LoginId.parse_eq_ok.mp hl, MemberName.parse_eq_ok.mp hn,
      Email.parse_eq_ok.mp he, valid⟩
  · rintro ⟨⟨loginId, name, email⟩, hl, hn, he, valid⟩
    exact ⟨⟨loginId, LoginId.parse_eq_ok.mpr hl⟩, ⟨name, MemberName.parse_eq_ok.mpr hn⟩,
      ⟨email, Email.parse_eq_ok.mpr he⟩, valid⟩

theorem Passes.not_refuses (h : Passes rules r) (e : Failure) : ¬ Refuses rules r e := by
  intro refused
  obtain ⟨admission, passed⟩ := passes_iff.mp h
  rw [checkRegistration_eq_error.mpr refused] at passed
  cases passed

end Service

namespace App

open Service

variable {a b : App} {registration : Registration}

/-- The first thing that stands in the way of a registration. -/
inductive Obstacle (a : App) (r : Registration) : Failure → Prop
  | refused {e} (h : Refuses a.rules r e) : Obstacle a r e
  /-- Somebody has the address, perhaps spelled in another case. -/
  | email {owner m} (passes : Passes a.rules r) (stored : a.shelf.find owner = .ok (some m))
    (same : emailKey m.email = emailKey r.email) : Obstacle a r (.duplicateMember r.email)
  | loginId {m} (passes : Passes a.rules r)
    (unused : ∀ owner m, a.shelf.find owner = .ok (some m) → emailKey m.email ≠ emailKey r.email)
    (stored : a.shelf.find r.loginId = .ok (some m)) : Obstacle a r (.duplicateMember r.loginId)

/-- Nothing stands in the way of a registration. -/
structure Admissible (a : App) (r : Registration) : Prop where
  passes : Passes a.rules r
  unused : ∀ owner m, a.shelf.find owner = .ok (some m) → emailKey m.email ≠ emailKey r.email
  free : ∀ m, a.shelf.find r.loginId ≠ .ok (some m)

theorem Obstacle.not_admissible {e : Failure} (h : Obstacle a registration e) :
    ¬ Admissible a registration := by
  intro admissible
  cases h with
  | refused refuses => exact admissible.passes.not_refuses e refuses
  | email _ stored same => exact admissible.unused _ _ stored same
  | loginId _ _ stored => exact admissible.free _ stored

/-- After a registration that was admitted: there is one member more, as it was asked for. -/
structure Joined (a b : App) (r : Registration) (m : Member) : Prop where
  loginId : m.loginId = r.loginId
  name : m.name = r.name
  birthDate : m.birthDate = r.birthDate
  email : m.email = r.email
  accepts : b.rules.hasher.verify m.passwordHash r.password = true
  absent : a.shelf.find r.loginId = .ok none
  stored : b.shelf.find r.loginId = .ok (some m)
  others : ∀ loginId, loginId ≠ r.loginId → b.shelf.find loginId = a.shelf.find loginId
  files : Adds a.shelf.disk b.shelf.disk m
  gate : b.gate = a.gate.count .memberRegistered
  /-- The member is who verifies with login id and password. -/
  verifies : (b.verify r.loginId r.password).2 = .ok m.identity

/-- After a registration that was not: documents and reservations, cache and counters are as they
were. -/
structure TurnedAway (a b : App) : Prop where
  members : ∀ loginId, b.shelf.find loginId = a.shelf.find loginId
  files : SameFiles a.shelf.disk b.shelf.disk
  gate : b.gate = a.gate

/-- How a registration relates to the application before and after it. -/
structure Decided (a b : App) (r : Registration) (result : Except Failure Member) : Prop where
  admitted : (∃ m, result = .ok m) ↔ Admissible a r
  refused : ∀ e, result = .error e ↔ Obstacle a r e
  joined : ∀ m, result = .ok m → Joined a b r m
  turnedAway : ∀ e, result = .error e → TurnedAway a b
  cache : b.gate.cache = a.gate.cache

section Registering

variable {r : Roster}

/-- A registration touches the gate by counting itself, if it succeeds. -/
theorem register_gate (unfailing : a.faults = .none) (registration : Registration) :
    (a.register registration).1.gate = match (a.register registration).2 with
      | .ok _ => a.gate.count .memberRegistered
      | .error _ => a.gate := by
  cases checked : checkRegistration a.rules registration with
  | error e =>
    rw [register_of_refused checked]
  | ok admission =>
    rw [register_of_check unfailing checked, onStore]
    generalize (Store.insert (a.newMember registration admission)).run Shelf.perform _ = stored
    obtain ⟨shelf, e | m⟩ := stored
    · rfl
    · rfl

/-- The checks come first, and then the map decides. -/
theorem register_eq_error (unfailing : a.faults = .none) (keeps : a.shelf.Keeps r) {e : Failure} :
    (a.register registration).2 = .error e ↔ Obstacle a registration e := by
  cases checked : checkRegistration a.rules registration with
  | error first =>
    have refuses := checkRegistration_eq_error.mp checked
    rw [register_of_refused checked, Except.error.injEq]
    constructor
    · rintro rfl
      exact .refused refuses
    · intro obstacle
      cases obstacle with
      | refused other =>
        have again := checkRegistration_eq_error.mpr other
        rw [checked] at again
        exact Except.error.inj again
      | email passes => exact absurd refuses (passes.not_refuses first)
      | loginId passes => exact absurd refuses (passes.not_refuses first)
  | ok admission =>
    have passes := passes_iff.mpr ⟨admission, checked⟩
    obtain ⟨loginId, _, email, _⟩ := checkRegistration_eq_ok.mp checked
    rw [(register_stored unfailing keeps checked).1, Roster.insert_eq_error, keeps.hasEmail_iff,
      Bool.eq_false_iff, Ne, keeps.hasEmail_iff, newMember, loginId, email]
    constructor
    · rintro (⟨⟨owner, m, stored, same⟩, rfl⟩ | ⟨unused, ⟨m, present⟩, rfl⟩)
      · exact .email passes stored same
      · refine .loginId (m := m) passes ?_ ?_
        · exact fun owner m stored same => unused ⟨owner, m, stored, same⟩
        · rw [keeps.find, present]
    · intro obstacle
      cases obstacle with
      | refused refuses => exact absurd refuses (passes.not_refuses e)
      | email _ stored same => exact Or.inl ⟨⟨_, _, stored, same⟩, rfl⟩
      | @loginId m _ unused stored =>
        refine Or.inr ⟨?_, ⟨m, ?_⟩, rfl⟩
        · rintro ⟨owner, m, there, same⟩
          exact unused owner m there same
        · rw [keeps.find] at stored
          exact Except.ok.inj stored

theorem admissible_of_ok (unfailing : a.faults = .none) (keeps : a.shelf.Keeps r) {m : Member}
    (ok : (a.register registration).2 = .ok m) : Admissible a registration := by
  obtain ⟨admission, checked, _⟩ := register_eq_ok unfailing keeps ok
  obtain ⟨loginId, _, email, _⟩ := checkRegistration_eq_ok.mp checked
  have inserted := (register_stored unfailing keeps checked).1.symm.trans ok
  obtain ⟨unused, free, _⟩ := Roster.insert_eq_ok.mp inserted
  rw [Bool.eq_false_iff, Ne, keeps.hasEmail_iff, newMember, email] at unused
  rw [newMember, loginId] at free
  refine ⟨passes_iff.mpr ⟨admission, checked⟩, ?_, ?_⟩
  · exact fun owner m stored same => unused ⟨owner, m, stored, same⟩
  · intro m stored
    rw [keeps.find, free] at stored
    cases stored

theorem joined_of_ok (unfailing : a.faults = .none) (keeps : a.shelf.Keeps r) {m : Member}
    (ok : (a.register registration).2 = .ok m) :
    Joined a (a.register registration).1 registration m := by
  obtain ⟨admission, checked, made, there⟩ := register_eq_ok unfailing keeps ok
  obtain ⟨answer, registered⟩ := register_stored unfailing keeps checked
  obtain ⟨loginId, name, email, _⟩ := checkRegistration_eq_ok.mp checked
  have inserted := answer.symm.trans ok
  have members := Roster.members_of_insert_ok inserted
  obtain ⟨unused, free, _⟩ := Roster.insert_eq_ok.mp inserted
  have unused : r.hasEmail m.email = false := by
    rw [made]
    exact unused
  have free : r.members[m.loginId]? = none := by
    rw [made]
    exact free
  have own : m.loginId = registration.loginId := by
    rw [made]
    exact loginId
  have accepts : (a.register registration).1.rules.hasher.verify m.passwordHash
      registration.password = true := by
    rw [registered.rules, made]
    exact (a.rules.hasher.verify_hash a.rules.hasher _ _ _).mpr rfl
  have stored : (a.register registration).1.shelf.find registration.loginId = .ok (some m) := by
    rw [registered.keeps.find, ← own, there]
  constructor
  case loginId => exact own
  case name =>
    rw [made]
    exact name
  case birthDate =>
    rw [made]
    rfl
  case email =>
    rw [made]
    exact email
  case accepts => exact accepts
  case absent => rw [keeps.find, ← own, free]
  case stored => exact stored
  case others =>
    intro other apart
    rw [registered.keeps.find, members, Roster.getElem?_insert, own, if_neg apart.symm, keeps.find]
  case files => exact keeps.adds registered.keeps unused free members
  case gate => rw [register_gate unfailing, ok]
  case verifies =>
    rw [verify_eq_verdictOn registered.unfailing]
    exact verdictOn_eq_ok.mpr ⟨m, stored, accepts, rfl⟩

theorem turnedAway_of_error (unfailing : a.faults = .none) (keeps : a.shelf.Keeps r) {e : Failure}
    (failed : (a.register registration).2 = .error e) :
    TurnedAway a (a.register registration).1 := by
  cases checked : checkRegistration a.rules registration with
  | error first =>
    rw [register_of_refused checked]
    exact ⟨fun _ => rfl, fun _ => rfl, rfl⟩
  | ok admission =>
    obtain ⟨answer, registered⟩ := register_stored unfailing keeps checked
    have same := Roster.members_of_insert_error (answer.symm.trans failed)
    refine ⟨?_, keeps.sameFiles registered.keeps same, ?_⟩
    · intro loginId
      rw [registered.keeps.find, same, keeps.find]
    · rw [register_gate unfailing, failed]

/-- In every state that the application gets into, a registration is admitted exactly if nothing
stands in its way, and answered with the first obstacle otherwise. -/
theorem admits_exactly (reachable : Http.Reachable a) (registration : Registration) :
    Decided a (a.register registration).1 registration (a.register registration).2 := by
  obtain ⟨r, orderly⟩ := reachable.orderly
  have unfailing : a.faults = .none := orderly.unfailing
  have keeps : a.shelf.Keeps r := orderly.keeps
  constructor
  case admitted =>
    constructor
    · rintro ⟨m, ok⟩
      exact admissible_of_ok unfailing keeps ok
    · intro admissible
      cases result : (a.register registration).2 with
      | ok m => exact ⟨m, rfl⟩
      | error e =>
        have obstacle := (register_eq_error unfailing keeps).mp result
        exact absurd admissible obstacle.not_admissible
  case refused => exact fun e => register_eq_error unfailing keeps
  case joined => exact fun m ok => joined_of_ok unfailing keeps ok
  case turnedAway => exact fun e failed => turnedAway_of_error unfailing keeps failed
  case cache =>
    rw [register_gate unfailing]
    split
    · rfl
    · rfl

/-- A member registers, and then somebody with another address asks for the same login id. -/
theorem admits_exactly_one_ada :
    let ada := adaRegistration "Lovelace#1815Ada"
    let eve := { ada with email := "eve@example.org" }
    Http.Reachable standard ∧ ∃ b m, standard.register ada = (b, .ok m) ∧ Joined standard b ada m ∧
      Http.Reachable b ∧ (b.register eve).2 = .error (.duplicateMember "ada") ∧
        TurnedAway b (b.register eve).1 := by
  intro ada eve
  have valid : Policy.validate .requireAllClasses adaBirthDate "Lovelace#1815Ada" = .ok () := by
    decide +kernel
  obtain ⟨b, _, registered, after, _⟩ := register_ada ⟨17, 8, 1, rfl⟩ valid
  have registered : standard.register ada = (b, .ok (adaMember ⟨17, 8, 1, rfl⟩ _)) := registered
  -- so that no hash is evaluated
  generalize adaMember _ _ = m at registered
  have first := admits_exactly Http.reachable_standard ada
  have reachable : Http.Reachable b := by
    have handled : Interleaving.World.Handles (fun _ => True) standard (standard.register ada).1 :=
      Interleaving.World.handles_register _ _
    obtain ⟨ended, run, _⟩ := handled.reaches []
    rw [registered] at run
    exact .requests Http.reachable_standard run
  rw [registered] at first
  have joined := first.joined m rfl
  have checked : checkRegistration b.rules eve =
      .ok ⟨⟨"ada", rfl⟩, ⟨"Ada", rfl⟩, ⟨"eve@example.org", rfl⟩⟩ := by
    rw [after.rules]
    exact checkRegistration_eq_ok.mpr ⟨rfl, rfl, rfl, valid⟩
  have passes := passes_iff.mpr ⟨_, checked⟩
  have unused : ∀ owner m, b.shelf.find owner = .ok (some m) →
      emailKey m.email ≠ emailKey eve.email := by
    intro owner other stored
    by_cases own : owner = ada.loginId
    · subst own
      rw [joined.stored] at stored
      cases stored
      rw [joined.email]
      decide
    · rw [joined.others owner own, (Shelf.keeps_empty rfl : standard.shelf.Keeps _).find] at stored
      cases stored
  have second := admits_exactly reachable eve
  have refused := (second.refused _).mpr (.loginId passes unused joined.stored)
  exact ⟨Http.reachable_standard, b, m, registered, joined, reachable, refused,
    second.turnedAway _ refused⟩

end Registering

end App

end MemberAuth
