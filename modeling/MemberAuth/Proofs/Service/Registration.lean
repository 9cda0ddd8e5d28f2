import MemberAuth.Proofs.Service.Stored

/-!
# What a registration does

Without a failing store, a registration that passes the checks is decided by the map of members
alone, and leaves the cache as it is.
-/
namespace MemberAuth.App

open Store Service

variable {a : App} {r : Roster} {registration : Registration} {admission : Admission}

/-- The member that an admitted registration is about to store. -/
def newMember (a : App) (registration : Registration) (admission : Admission) : NewMember :=
  ⟨admission.loginId, a.rules.hasher.hash (a.salts a.saltCount) registration.password,
    admission.name, registration.birthDate, admission.email⟩

theorem register_of_check (unfailing : a.faults = .none)
    (checked : checkRegistration a.rules registration = .ok admission) :
    a.register registration =
      match App.onStore { a with saltCount := a.saltCount + 1 }
        (Store.insert (a.newMember registration admission)) with
      | (b, .error e) => (b, .error e)
      | (b, .ok m) => ({ b with gate := b.gate.count .memberRegistered }, .ok m) := by
  have salted : App.perform (.insert (a.newMember registration admission))
      { a with saltCount := a.saltCount + 1 } =
        App.onStore { a with saltCount := a.saltCount + 1 }
          (Store.insert (a.newMember registration admission)) :=
    perform_insert (a := { a with saltCount := a.saltCount + 1 }) unfailing _
  rw [App.register, Service.register, checked]
  dsimp only
  rw [serve, Script.run_bind]
  simp only [ServiceScript.salt, Script.run_ask, perform]
  rw [Script.run_bind]
  simp only [ServiceScript.insert, Script.run_ask]
  rw [← newMember, salted]
  generalize App.onStore _ _ = stored
  obtain ⟨b, e | m⟩ := stored
  · rfl
  · rfl

/-- A registration that fails a check does nothing. -/
theorem register_of_refused {e : Failure}
    (refused : checkRegistration a.rules registration = .error e) :
    a.register registration = (a, .error e) := by
  rw [App.register, Service.register, refused]
  rfl

/-- How an application stands after a registration that passed the checks. -/
structure Registered (a : App) (r : Roster) (m : NewMember) (b : App) : Prop where
  unfailing : b.faults = .none
  keeps : b.shelf.Keeps (r.insert m).1
  rules : b.rules = a.rules
  cache : b.gate.cache = a.gate.cache
  salts : b.salts = a.salts

/-- An admitted registration ends as the insertion into the map does. -/
theorem register_stored (unfailing : a.faults = .none) (keeps : a.shelf.Keeps r)
    (checked : checkRegistration a.rules registration = .ok admission) :
    (a.register registration).2 = (r.insert (a.newMember registration admission)).2 ∧
      Registered a r (a.newMember registration admission) (a.register registration).1 := by
  rw [register_of_check unfailing checked]
  have answer := (keeps.insert (a.newMember registration admission)).1
  have kept := (keeps.insert (a.newMember registration admission)).2
  rw [onStore]
  generalize (Store.insert (a.newMember registration admission)).run Shelf.perform _ = stored
    at answer kept ⊢
  obtain ⟨shelf, e | m⟩ := stored
  · exact ⟨answer, unfailing, kept, rfl, rfl, rfl⟩
  · exact ⟨answer, unfailing, kept, rfl, rfl, rfl⟩

/-- A registration that succeeds passed the checks, and found address and login id unused. -/
theorem register_eq_ok (unfailing : a.faults = .none) (keeps : a.shelf.Keeps r) {m : Member}
    (ok : (a.register registration).2 = .ok m) :
    ∃ admission, checkRegistration a.rules registration = .ok admission ∧
      m = (a.newMember registration admission).withId (r.lastId + 1) ∧
      (r.insert (a.newMember registration admission)).1.members[m.loginId]? = some m := by
  cases checked : checkRegistration a.rules registration with
  | error e =>
    rw [register_of_refused checked] at ok
    cases ok
  | ok admission =>
    have stored := (register_stored unfailing keeps checked).1.symm.trans ok
    obtain ⟨_, _, rfl⟩ := Roster.insert_eq_ok.mp stored
    refine ⟨admission, rfl, rfl, ?_⟩
    rw [Roster.members_of_insert_ok stored, Roster.getElem?_insert, if_pos rfl]

/-- A new application with this cost of hashing, and one salt for all hashes. -/
def costing (cost : Hash.Cost) : App :=
  ⟨{ hashing := ⟨cost.logN, cost.r, cost.p⟩ }, ⟨⟨cost⟩, .requireAllClasses⟩,
    ⟨Workshop.bareDisk, 1, 0⟩, .none, ⟨newCache {}, .zero⟩, 0, fun _ => .replicate 16 7, 0⟩

/-- A new application with the settings that hold when nothing is said. -/
def standard : App :=
  costing ⟨17, 8, 1, rfl⟩

theorem start_standard : start {} Disk.empty (fun _ => .replicate 16 7) = .ok standard := rfl

theorem isDate_adaBirthDate : Calendar.isDate 1990 1 2 = true := rfl

def adaBirthDate : Date :=
  ⟨1990, 1, 2, isDate_adaBirthDate⟩

def adaRegistration (password : String) : Registration :=
  ⟨"ada", password, "Ada", "ada@example.org", adaBirthDate⟩

/-- The member that the registration makes. -/
def adaMember (cost : Hash.Cost) (password : String) : Member :=
  ⟨1, "ada", Hash.Hasher.hash ⟨cost⟩ (.replicate 16 7) password, "Ada", adaBirthDate,
    "ada@example.org"⟩

theorem register_ada (cost : Hash.Cost) {password : String}
    (valid : Policy.validate .requireAllClasses adaBirthDate password = .ok ()) :
    ∃ b m, (costing cost).register (adaRegistration password) =
        (b, .ok (adaMember cost password)) ∧ Registered (costing cost) Roster.empty m b ∧
      (Roster.empty.insert m).1.members["ada"]? = some (adaMember cost password) := by
  have checked : checkRegistration (costing cost).rules (adaRegistration password) =
      .ok ⟨⟨"ada", rfl⟩, ⟨"Ada", rfl⟩, ⟨"ada@example.org", rfl⟩⟩ :=
    checkRegistration_eq_ok.mpr ⟨rfl, rfl, rfl, valid⟩
  obtain ⟨answer, registered⟩ := register_stored rfl (Shelf.keeps_empty rfl) checked
  refine ⟨_, _, Prod.ext rfl answer, registered, ?_⟩
  exact (Roster.getElem?_insert ..).trans (if_pos rfl)

end MemberAuth.App
