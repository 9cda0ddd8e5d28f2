import MemberAuth.Proofs.Hash.Hasher
import MemberAuth.Proofs.Http.Sequence
import MemberAuth.Proofs.Service.Registration

/-!
# Which passwords let a member in

Every stored hash was made from a password that the policy accepts for the birth date of its owner.
A password outside the policy is let in only if it makes the same key as that one, or derives the
same output from another key: because keys are filled up with zeros, an accepted password with NUL
characters behind it is let in as well.
-/
namespace MemberAuth

open Hash Text Store Service

namespace Hash

/-- A password that is let in for one of at most 64 bytes. -/
inductive Twin (cost : Cost) (salt : Salt) (password attempt : String) : Prop
  /-- NUL characters at the end do not change the key. -/
  | padded (short : (textBytes attempt).length ≤ 64) (h : PaddedAlike password attempt)
  /-- A password longer than a block is hashed to make the key. -/
  | hashed (long : 64 < (textBytes attempt).length)
    (h : blockKey (textBytes attempt) = blockKey (textBytes password))
  /-- Different keys derive the same output. -/
  | collision (apart : blockKey (textBytes attempt) ≠ blockKey (textBytes password))
    (h : scrypt cost (textBytes attempt) salt.toList outputLength =
      scrypt cost (textBytes password) salt.toList outputLength)

theorem Hasher.verify_iff_twin (h other : Hasher) (salt : Salt) {password attempt : String}
    (short : (textBytes password).length ≤ 64) :
    other.verify (h.hash salt password) attempt = true ↔ Twin h.cost salt password attempt := by
  rw [verify_hash]
  constructor
  · intro same
    by_cases key : blockKey (textBytes attempt) = blockKey (textBytes password)
    · by_cases long : 64 < (textBytes attempt).length
      · exact .hashed long key
      · have fits := Nat.le_of_not_lt long
        exact .padded fits ((blockKey_eq_iff short fits).mp key.symm)
    · exact .collision key same
  · intro twin
    cases twin with
    | padded fits alike =>
      exact scrypt_congr ((blockKey_eq_iff short fits).mpr alike).symm _ _ _
    | hashed long key => exact scrypt_congr key _ _ _
    | collision apart same => exact same

end Hash

namespace Interleaving

/-- The hash of some password that the policy accepts. -/
def Accepted (rules : Rules) (birthDate : Date) (passwordHash : String) : Prop :=
  ∃ password salt, Policy.validate rules.characterRule birthDate password = .ok () ∧
    passwordHash = rules.hasher.hash salt password

theorem issues_accepted (rules : Rules) : Issues rules (Accepted rules) :=
  fun _ password salt valid => ⟨password, salt, valid, rfl⟩

/-- Whoever is let in gave a password that the policy accepts for the stored birth date, or a twin
of one: after any registrations and password changes, in whatever order their calls are made. -/
theorem accepted_or_twin {settings : Settings} {salts : Nat → Salt} {a : App} {w : World}
    {loginId attempt : String} {who : Identity}
    (started : App.start settings Disk.empty salts = .ok a) (run : World.Reaches ⟨a, []⟩ w)
    (verified : (w.app.verify loginId attempt).2 = .ok who) :
    ∃ m, w.app.shelf.find loginId = .ok (some m) ∧
      (Policy.validate a.rules.characterRule m.birthDate attempt = .ok () ∨
        ∃ password salt, password ≠ attempt ∧
          Policy.validate a.rules.characterRule m.birthDate password = .ok () ∧
          m.passwordHash = a.rules.hasher.hash salt password ∧
          Twin a.rules.hasher.cost salt password attempt) := by
  obtain ⟨r, h⟩ := orderly_of_reaches (orderly_start started (issues_accepted a.rules)) run
  rw [App.verify_eq_verdictOn h.unfailing] at verified
  obtain ⟨m, found, accepts, _⟩ := verdictOn_eq_ok.mp verified
  refine ⟨m, found, ?_⟩
  rw [h.keeps.find, Except.ok.injEq] at found
  obtain ⟨password, salt, valid, made⟩ := h.admits loginId m found
  by_cases same : password = attempt
  · exact Or.inl (same ▸ valid)
  · rw [made, Hasher.verify_iff_twin _ _ _ (Policy.length_textBytes_of_validate valid)] at accepts
    exact Or.inr ⟨password, salt, same, valid, made, accepts⟩

/-- Once registered, a member is let in with its password, whatever NUL characters follow it. -/
theorem let_in_padded {password attempt : String}
    (valid : Policy.validate .requireAllClasses App.adaBirthDate password = .ok ())
    (short : (textBytes attempt).length ≤ 64) (alike : PaddedAlike password attempt) :
    ∃ w m, World.Reaches ⟨App.standard, []⟩ w ∧ w.app.shelf.find "ada" = .ok (some m) ∧
      m.birthDate = App.adaBirthDate ∧ (w.app.verify "ada" attempt).2 = .ok m.identity := by
  obtain ⟨b, m, register, registered, stored⟩ := App.register_ada ⟨17, 8, 1, rfl⟩ valid
  have handled : World.Handles (fun _ => True) App.standard
      (App.standard.register (App.adaRegistration password)).1 := World.handles_register _ _
  rw [App.standard, register] at handled
  obtain ⟨ended, reach, _⟩ := handled.reaches []
  have found : b.shelf.find "ada" = .ok (some (App.adaMember ⟨17, 8, 1, rfl⟩ password)) := by
    rw [registered.keeps.find, stored]
  have accepts : b.rules.hasher.verify
      (App.adaMember ⟨17, 8, 1, rfl⟩ password).passwordHash attempt = true :=
    (Hasher.verify_iff_twin _ _ _ (Policy.length_textBytes_of_validate valid)).mpr
      (.padded short alike)
  refine ⟨⟨b, [] ++ ended⟩, _, reach, found, rfl, ?_⟩
  rw [App.verify_eq_verdictOn registered.unfailing]
  exact verdictOn_eq_ok.mpr ⟨_, found, accepts, rfl⟩

/-- With one NUL character more, a password of sixteen characters is let in, though the policy
refuses it as too long. -/
theorem too_long_password_let_in :
    App.start {} Disk.empty (fun _ => .replicate 16 7) = .ok App.standard ∧
      ∃ w m, World.Reaches ⟨App.standard, []⟩ w ∧ w.app.shelf.find "ada" = .ok (some m) ∧
        (w.app.verify "ada" "Lovelace#1815Ada\x00").2 = .ok m.identity ∧
        Policy.validate App.standard.rules.characterRule m.birthDate "Lovelace#1815Ada\x00" =
          .error (.tooLong 16 17) := by
  have alike : PaddedAlike "Lovelace#1815Ada" "Lovelace#1815Ada\x00" := ⟨1, Or.inl rfl⟩
  obtain ⟨w, m, reach, found, born, verified⟩ := let_in_padded (by decide +kernel) (by decide) alike
  refine ⟨rfl, w, m, reach, found, verified, ?_⟩
  rw [born]
  decide

/-- The password as it was registered is let in. -/
theorem accepted_or_twin_of_registration : ∃ w who, World.Reaches ⟨App.standard, []⟩ w ∧
    (w.app.verify "ada" "Lovelace#1815Ada").2 = .ok who ∧
    ∃ m, w.app.shelf.find "ada" = .ok (some m) ∧
      (Policy.validate App.standard.rules.characterRule m.birthDate "Lovelace#1815Ada" = .ok () ∨
        ∃ password salt, password ≠ "Lovelace#1815Ada" ∧
          Policy.validate App.standard.rules.characterRule m.birthDate password = .ok () ∧
          m.passwordHash = App.standard.rules.hasher.hash salt password ∧
          Twin App.standard.rules.hasher.cost salt password "Lovelace#1815Ada") := by
  have alike : PaddedAlike "Lovelace#1815Ada" "Lovelace#1815Ada" := ⟨0, Or.inl rfl⟩
  obtain ⟨w, _, reach, _, _, verified⟩ := let_in_padded (by decide +kernel) (by decide) alike
  exact ⟨w, _, reach, verified, accepted_or_twin App.start_standard reach verified⟩

end Interleaving

end MemberAuth
