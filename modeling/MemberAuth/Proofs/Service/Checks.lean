import MemberAuth.Proofs.Password.Policy
import MemberAuth.Service

/-!
# What the checks of the service let through

A registration passes if its fields read as they stand and the policy accepts the password; a change
of password passes if the current password verifies, the new one does not, and the policy accepts
the new one.
-/
namespace MemberAuth

/-- A text reads as a field, made of the text and the proof that it passes the check, if it is the
text of the field. -/
theorem checked_eq_ok {Field : Type} {check : String → Except FieldError Unit}
    {make : (text : String) → check text = .ok () → Field} {textOf : Field → String}
    (valid : ∀ field, check (textOf field) = .ok ())
    (made : ∀ field, make (textOf field) (valid field) = field)
    (keeps : ∀ text h, textOf (make text h) = text) (text : String) (field : Field) :
    (match h : check text with
      | .ok () => Except.ok (make text h)
      | .error e => .error e) = .ok field ↔ textOf field = text := by
  split
  · rename_i passed
    constructor
    · intro h
      cases h
      exact keeps text passed
    · rintro rfl
      exact congrArg Except.ok (made field)
  · rename_i e failed
    constructor
    · intro h
      cases h
    · rintro rfl
      rw [valid field] at failed
      cases failed

theorem LoginId.parse_eq_ok {text : String} {field : LoginId} :
    LoginId.parse text = .ok field ↔ field.text = text :=
  checked_eq_ok LoginId.valid (fun _ => rfl) (fun _ _ => rfl) text field

theorem MemberName.parse_eq_ok {text : String} {field : MemberName} :
    MemberName.parse text = .ok field ↔ field.text = text :=
  checked_eq_ok MemberName.valid (fun _ => rfl) (fun _ _ => rfl) text field

theorem Email.parse_eq_ok {text : String} {field : Email} :
    Email.parse text = .ok field ↔ field.text = text :=
  checked_eq_ok Email.valid (fun _ => rfl) (fun _ _ => rfl) text field

namespace Service

variable {rules : Rules}

theorem mapError_eq_ok {ε ε' α : Type} {x : Except ε α} {f : ε → ε'} {a : α} :
    x.mapError f = .ok a ↔ x = .ok a := by
  cases x with
  | error e => simp [Except.mapError]
  | ok b => simp [Except.mapError]

theorem mapError_eq_error {ε ε' α : Type} {x : Except ε α} {f : ε → ε'} {e : ε'} :
    x.mapError f = .error e ↔ ∃ d, x = .error d ∧ f d = e := by
  cases x with
  | error d => simp [Except.mapError]
  | ok a => simp [Except.mapError]

theorem checkRegistration_eq_ok {r : Registration} {admission : Admission} :
    checkRegistration rules r = .ok admission ↔
      admission.loginId.text = r.loginId ∧ admission.name.text = r.name ∧
        admission.email.text = r.email ∧
        Policy.validate rules.characterRule r.birthDate r.password = .ok () := by
  simp only [checkRegistration, bind_eq_ok, mapError_eq_ok, LoginId.parse_eq_ok,
    MemberName.parse_eq_ok, Email.parse_eq_ok]
  constructor
  · rintro ⟨loginId, hl, name, hn, email, he, _, valid, h⟩
    cases h
    exact ⟨hl, hn, he, valid⟩
  · rintro ⟨hl, hn, he, valid⟩
    exact ⟨_, hl, _, hn, _, he, (), valid, rfl⟩

theorem checkChange_eq_ok {m : Member} {current new : String} :
    checkChange rules m current new = .ok () ↔
      rules.hasher.verify m.passwordHash current = true ∧
        rules.hasher.verify m.passwordHash new = false ∧
        Policy.validate rules.characterRule m.birthDate new = .ok () := by
  rw [checkChange]
  by_cases knows : rules.hasher.verify m.passwordHash current = true
  · by_cases same : rules.hasher.verify m.passwordHash new = true
    · simp [knows, same, bind, Except.bind, throw, throwThe, MonadExceptOf.throw]
    · simp [knows, same, mapError_eq_ok]
  · simp [knows, bind, Except.bind, throw, throwThe, MonadExceptOf.throw]

end Service

end MemberAuth
