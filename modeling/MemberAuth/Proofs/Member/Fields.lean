import MemberAuth.Member.Fields
import MemberAuth.Proofs.Text.Bytes

/-!
# What the fields of a member may be
-/
namespace MemberAuth

open Text

namespace LoginId

/-- A login id has no character that takes more than one byte, so its length may be counted in
either. -/
theorem check_eq_ok {text : String} :
    check text = .ok () ↔
      0 < text.length ∧ text.length ≤ 50 ∧ ∀ c ∈ text.toList, isAsciiAlphanumeric c = true := by
  constructor
  · intro h
    rw [check] at h
    split at h
    · cases h
    rename_i blank
    split at h
    · cases h
    rename_i short
    split at h
    · cases h
    rename_i plain
    have letters : ∀ c ∈ text.toList, isAsciiAlphanumeric c = true := by
      simpa using plain
    have size := utf8ByteSize_of_ascii fun c hc => isAscii_of_isAsciiAlphanumeric (letters c hc)
    obtain ⟨c, hc, _⟩ := allBlank_eq_false_iff.mp (Bool.eq_false_iff.mpr blank)
    refine ⟨?_, ?_, letters⟩
    · rw [← String.length_toList]
      exact List.length_pos_of_mem hc
    · rw [← size]
      exact Nat.le_of_not_lt short
  · rintro ⟨present, short, letters⟩
    have size := utf8ByteSize_of_ascii fun c hc => isAscii_of_isAsciiAlphanumeric (letters c hc)
    have blank : allBlank text = false := by
      rw [← String.length_toList] at present
      obtain ⟨c, hc⟩ := List.exists_mem_of_length_pos present
      exact allBlank_eq_false_iff.mpr ⟨c, hc, isBlank_of_isAsciiAlphanumeric (letters c hc)⟩
    have plain : text.toList.all isAsciiAlphanumeric = true := List.all_eq_true.mpr letters
    have fits : ¬ maxLength < text.utf8ByteSize := by
      rw [size]
      exact Nat.not_lt.mpr short
    simp [check, blank, fits, plain]

theorem not_blank_of_check {text : String} (h : check text = .ok ()) : allBlank text = false := by
  obtain ⟨present, _, letters⟩ := check_eq_ok.mp h
  rw [← String.length_toList] at present
  obtain ⟨c, hc⟩ := List.exists_mem_of_length_pos present
  exact allBlank_eq_false_iff.mpr ⟨c, hc, isBlank_of_isAsciiAlphanumeric (letters c hc)⟩

theorem ne_empty_of_check {text : String} (h : check text = .ok ()) : text ≠ "" := by
  rintro rfl
  exact absurd (check_eq_ok.mp h).1 (by decide)

end LoginId

end MemberAuth
