import MemberAuth.Password.Policy
import MemberAuth.Proofs.Calendar.Notation
import MemberAuth.Proofs.Text.Bytes

/-!
# What the password policy accepts

An accepted password has eight to sixteen characters, so it takes at most 64 bytes, and some of its
characters are not white space.
-/
namespace MemberAuth

theorem bind_eq_ok {ε α β : Type} {x : Except ε α} {f : α → Except ε β} {b : β} :
    x >>= f = .ok b ↔ ∃ a, x = .ok a ∧ f a = .ok b := by
  cases x with
  | error e => simp [bind, Except.bind]
  | ok a => simp [bind, Except.bind]

theorem bind_eq_error {ε α β : Type} {x : Except ε α} {f : α → Except ε β} {e : ε} :
    x >>= f = .error e ↔ x = .error e ∨ ∃ a, x = .ok a ∧ f a = .error e := by
  cases x with
  | error e => simp [bind, Except.bind]
  | ok a => simp [bind, Except.bind]

namespace Policy

open Text

theorem validate_eq_ok {rule : CharacterRule} {birthDate : Date} {password : String} :
    validate rule birthDate password = .ok () ↔
      checkLength password.toList = .ok () ∧ checkCharacters rule password.toList = .ok () ∧
        checkBirthday birthDate password.toList = .ok () := by
  simp only [validate, bind_eq_ok]
  constructor
  · rintro ⟨_, length, _, characters, birthday⟩
    exact ⟨length, characters, birthday⟩
  · rintro ⟨length, characters, birthday⟩
    exact ⟨(), length, (), characters, birthday⟩

theorem checkLength_eq_ok {cs : List Char} :
    checkLength cs = .ok () ↔ 8 ≤ cs.length ∧ cs.length ≤ 16 := by
  rw [checkLength, minLength, maxLength]
  split
  · rename_i short
    simp
    omega
  split
  · rename_i long
    simp
    omega
  · simp
    omega

theorem checkClasses_eq_ok {cs : List Char} :
    checkClasses cs = .ok () ↔ ∀ k ∈ CharacterClass.all, ∃ c ∈ cs, k.has c = true := by
  rw [checkClasses]
  split
  · rename_i k missing
    have mem := List.mem_of_find?_eq_some missing
    have none := List.find?_some missing
    constructor
    · intro h
      cases h
    · intro each
      obtain ⟨c, hc, is⟩ := each k mem
      rw [Bool.not_eq_true', List.any_eq_false] at none
      exact absurd is (none c hc)
  · rename_i found
    rw [List.find?_eq_none] at found
    simpa using found

theorem checkAllowed_eq_ok {cs : List Char} :
    checkAllowed cs = .ok () ↔ ∀ c ∈ cs, isAllowed c = true := by
  rw [checkAllowed]
  split
  · rename_i c refused
    have mem := List.mem_of_find?_eq_some refused
    have other := List.find?_some refused
    constructor
    · intro h
      cases h
    · intro each
      rw [each c mem] at other
      cases other
  · rename_i found
    rw [List.find?_eq_none] at found
    simpa using found

theorem isBlank_of_isAllowed {c : Char} (h : isAllowed c = true) : isBlank c = false := by
  have visible : (allowedSymbols.all fun c => !isBlank c) = true := by decide
  have symbols : ∀ c ∈ allowedSymbols, isBlank c = false := by
    simpa using List.all_eq_true.mp visible
  rw [isAllowed, Bool.or_eq_true, List.contains_iff_mem] at h
  rcases h with letter | symbol
  · exact isBlank_of_isAsciiAlphanumeric letter
  · exact symbols c symbol

section Accepted

variable {rule : CharacterRule} {birthDate : Date} {password : String}

theorem not_blank_of_validate (h : validate rule birthDate password = .ok ()) :
    allBlank password = false := by
  obtain ⟨length, characters, _⟩ := validate_eq_ok.mp h
  rw [allBlank_eq_false_iff]
  cases rule with
  | requireAllClasses =>
    have digit : CharacterClass.digit ∈ CharacterClass.all := by decide
    obtain ⟨c, hc, is⟩ := checkClasses_eq_ok.mp characters _ digit
    exact ⟨c, hc, Calendar.isBlank_of_isDigit is⟩
  | allowedSymbolsOnly =>
    have present : 0 < password.toList.length := by
      have := (checkLength_eq_ok.mp length).1
      omega
    obtain ⟨c, hc⟩ := List.exists_mem_of_length_pos present
    exact ⟨c, hc, isBlank_of_isAllowed (checkAllowed_eq_ok.mp characters c hc)⟩

theorem length_textBytes_of_validate (h : validate rule birthDate password = .ok ()) :
    (textBytes password).length ≤ 64 := by
  have bytes : ∀ cs : List Char, (cs.flatMap String.utf8EncodeChar).length ≤ 4 * cs.length := by
    intro cs
    induction cs with
    | nil => exact Nat.le_refl 0
    | cons c cs ih =>
      have := c.utf8Size_le_four
      rw [List.flatMap_cons, List.length_append, String.length_utf8EncodeChar, List.length_cons]
      omega
  have count := (checkLength_eq_ok.mp (validate_eq_ok.mp h).1).2
  have size := bytes password.toList
  rw [textBytes]
  omega

end Accepted

end Policy

end MemberAuth
