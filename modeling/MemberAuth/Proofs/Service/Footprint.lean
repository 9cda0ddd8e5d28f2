import MemberAuth.Proofs.Service.Changes
import MemberAuth.Proofs.Service.Registration
import MemberAuth.Proofs.Store.Filing

/-!
# What a registration and a change of password leave behind

Either the operation ends in an error and every file is as it was, or it ends well: then a
registration has added the files of the new member, and a change of password has replaced the hash
in one document, against which the current password verified.
-/
namespace MemberAuth.App

open Store Service Changing

variable {a : App} {r : Roster}

theorem register_files (unfailing : a.faults = .none) (keeps : a.shelf.Keeps r)
    (registration : Registration) :
    (∃ e, (a.register registration).2 = .error e ∧
        SameFiles a.shelf.disk (a.register registration).1.shelf.disk) ∨
      ∃ m, (a.register registration).2 = .ok m ∧
        Adds a.shelf.disk (a.register registration).1.shelf.disk m := by
  cases checked : checkRegistration a.rules registration with
  | error e =>
    rw [register_of_refused checked]
    exact Or.inl ⟨e, rfl, fun _ => rfl⟩
  | ok admission =>
    obtain ⟨answer, registered⟩ := register_stored unfailing keeps checked
    cases result : (a.register registration).2 with
    | error e =>
      have failed := answer.symm.trans result
      have same := Roster.members_of_insert_error failed
      exact Or.inl ⟨e, rfl, keeps.sameFiles registered.keeps same⟩
    | ok m =>
      have stored := answer.symm.trans result
      obtain ⟨unused, free, rfl⟩ := Roster.insert_eq_ok.mp stored
      have new := Roster.members_of_insert_ok stored
      exact Or.inr ⟨_, rfl, keeps.adds registered.keeps unused free new⟩

variable {loginId current new : String}

/-- A change that ends after the look-up does nothing. -/
theorem changePassword_of_done (unfailing : a.faults = .none) {result : Except Failure Member}
    (ends : afterLookup a.rules loginId current new (a.shelf.find loginId) = .done result) :
    a.changePassword loginId current new = (a, result) := by
  rw [App.changePassword, changePassword_eq, serve, Script.run, perform_find unfailing]
  dsimp only
  rw [ends]
  rfl

/-- A change that passes the checks replaces the hash, and then evicts the member. -/
theorem changePassword_of_check (unfailing : a.faults = .none) (keeps : a.shelf.Keeps r)
    {m : Member} (stored : r.members[loginId]? = some m)
    (checked : checkChange a.rules m current new = .ok ()) :
    ∃ passwordHash shelf, passwordHash = a.rules.hasher.hash (a.salts a.saltCount) new ∧
      a.changePassword loginId current new = ({ a with
          shelf
          saltCount := a.saltCount + 1
          gate := (a.gate.evict loginId).1.count .passwordChanged }, .ok { m with passwordHash }) ∧
      shelf.Keeps (r.update loginId passwordHash).1 := by
  generalize hash : a.rules.hasher.hash (a.salts a.saltCount) new = passwordHash
  have goes : afterLookup a.rules loginId current new (.ok (some m)) =
      replacing a.rules loginId new m := by
    rw [afterLookup, checked]
  rw [App.changePassword, changePassword_eq, serve, Script.run, perform_find unfailing, keeps.find,
    stored]
  dsimp only
  rw [goes, replacing, Script.run_bind]
  simp only [ServiceScript.salt, Script.run_ask, perform, hash]
  rw [storing, Script.run_bind]
  simp only [ServiceScript.update, Script.run_ask]
  have salted := perform_update (a := { a with saltCount := a.saltCount + 1 }) unfailing loginId
    passwordHash
  obtain ⟨answer, kept⟩ := keeps.update loginId passwordHash
  rw [salted, onStore]
  dsimp only
  generalize (Store.update loginId passwordHash).run Shelf.perform a.shelf = updated
    at answer kept ⊢
  obtain ⟨shelf, result⟩ := updated
  have done : result = .ok () := by
    rw [Roster.update, stored] at answer
    exact answer
  subst done
  exact ⟨passwordHash, shelf, rfl, rfl, kept⟩

theorem changePassword_files (unfailing : a.faults = .none) (keeps : a.shelf.Keeps r)
    (loginId current new : String) :
    (∃ e, (a.changePassword loginId current new).2 = .error e ∧
        SameFiles a.shelf.disk (a.changePassword loginId current new).1.shelf.disk) ∨
      ∃ (m : Member) (passwordHash : String), m.loginId = loginId ∧
        a.rules.hasher.verify m.passwordHash current = true ∧
        (a.changePassword loginId current new).2 = .ok { m with passwordHash } ∧
        Rehashes a.shelf.disk (a.changePassword loginId current new).1.shelf.disk m
          passwordHash := by
  have found := keeps.find loginId
  cases stored : r.members[loginId]? with
  | none =>
    rw [stored] at found
    have ends : afterLookup a.rules loginId current new (a.shelf.find loginId) =
        .done (.error .authenticationFailed) := by
      rw [found, afterLookup]
    rw [changePassword_of_done unfailing ends]
    exact Or.inl ⟨_, rfl, fun _ => rfl⟩
  | some m =>
    rw [stored] at found
    cases checked : checkChange a.rules m current new with
    | error e =>
      have ends : afterLookup a.rules loginId current new (a.shelf.find loginId) =
          .done (.error e) := by
        rw [found, afterLookup, checked]
      rw [changePassword_of_done unfailing ends]
      exact Or.inl ⟨e, rfl, fun _ => rfl⟩
    | ok u =>
      obtain ⟨passwordHash, shelf, _, changed, kept⟩ :=
        changePassword_of_check unfailing keeps stored checked
      rw [changed]
      refine Or.inr ⟨m, passwordHash, (keeps.own loginId m stored).1, ?_, rfl, ?_⟩
      · exact (checkChange_eq_ok.mp checked).1
      · exact keeps.rehashes passwordHash kept stored

end MemberAuth.App
