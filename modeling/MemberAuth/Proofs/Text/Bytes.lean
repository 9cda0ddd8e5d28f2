import MemberAuth.Text.Ascii
import MemberAuth.Text.Blank
import MemberAuth.Text.Bytes

/-!
# Bytes of a text

The bytes of a text determine it. An ASCII text takes one byte for each character, with the number
of the character; any other text has a byte beyond ASCII.
-/
namespace MemberAuth.Text

theorem length_textBytes (s : String) : (textBytes s).length = s.utf8ByteSize := by
  rw [← String.size_toByteArray, ← String.utf8Encode_toList]
  simp [textBytes, List.utf8Encode]

theorem textBytes_injective {s t : String} (h : textBytes s = textBytes t) : s = t := by
  have bytes : s.toByteArray = t.toByteArray := by
    rw [← String.utf8Encode_toList, ← String.utf8Encode_toList]
    exact congrArg List.toByteArray h
  exact String.toByteArray_inj.mp bytes

def isAscii (c : Char) : Bool :=
  c.toNat < 128

theorem toNat_lt_of_isAscii {c : Char} (h : isAscii c = true) : c.toNat < 128 :=
  of_decide_eq_true h

theorem utf8Size_of_isAscii {c : Char} (h : isAscii c = true) : c.utf8Size = 1 :=
  Char.utf8Size_eq_one_iff.mpr
    (UInt32.le_iff_toNat_le.mpr (Nat.le_of_lt_succ (toNat_lt_of_isAscii h)))

theorem textBytes_of_ascii {s : String} (h : ∀ c ∈ s.toList, isAscii c = true) :
    textBytes s = s.toList.map Char.toUInt8 := by
  have each : ∀ cs : List Char, (∀ c ∈ cs, isAscii c = true) →
      cs.flatMap String.utf8EncodeChar = cs.map Char.toUInt8 := by
    intro cs hcs
    induction cs with
    | nil => rfl
    | cons c cs ih =>
      have first := utf8Size_of_isAscii (hcs c List.mem_cons_self)
      have rest := ih fun d hd => hcs d (List.mem_cons_of_mem c hd)
      rw [List.flatMap_cons, rest, String.utf8EncodeChar_eq_singleton first]
      rfl
  exact each s.toList h

/-- Some byte of a character that is not ASCII is beyond ASCII. -/
theorem exists_high_byte {c : Char} (h : isAscii c = false) :
    ∃ b ∈ String.utf8EncodeChar c, 128 ≤ b.toNat := by
  have high (x mark : UInt8) (large : 128 ≤ mark.toNat) : 128 ≤ (x ||| mark).toNat := by
    rw [UInt8.toNat_or]
    exact Nat.le_trans large Nat.right_le_or
  have several : c.utf8Size ≠ 1 := by
    intro one
    have small := UInt32.le_iff_toNat_le.mp (Char.utf8Size_eq_one_iff.mp one)
    have ascii : isAscii c = true := decide_eq_true (Nat.lt_succ_of_le small)
    rw [ascii] at h
    cases h
  have size : c.utf8Size = 2 ∨ c.utf8Size = 3 ∨ c.utf8Size = 4 := by
    have := c.utf8Size_le_four
    have := c.utf8Size_pos
    omega
  rcases size with two | three | four
  · rw [String.utf8EncodeChar_eq_cons_cons two]
    exact ⟨_, List.mem_cons_self, high _ _ (by decide)⟩
  · rw [String.utf8EncodeChar_eq_cons_cons_cons three]
    exact ⟨_, List.mem_cons_self, high _ _ (by decide)⟩
  · rw [String.utf8EncodeChar_eq_cons_cons_cons_cons four]
    exact ⟨_, List.mem_cons_self, high _ _ (by decide)⟩
theorem utf8ByteSize_of_ascii {s : String} (h : ∀ c ∈ s.toList, isAscii c = true) :
    s.utf8ByteSize = s.length := by
  rw [← length_textBytes, textBytes_of_ascii h, List.length_map, String.length_toList]

theorem isAscii_of_isAsciiAlphanumeric {c : Char} (h : isAsciiAlphanumeric c = true) :
    isAscii c = true := by
  simp only [isAsciiAlphanumeric, isAsciiLetter, isDigit, Bool.or_eq_true, Bool.and_eq_true,
    decide_eq_true_eq, Char.le_def, UInt32.le_iff_toNat_le] at h
  have bound : c.toNat < 128 := by
    change c.val.toNat < 128
    have hz : ('z' : Char).val.toNat = 122 := rfl
    have hZ : ('Z' : Char).val.toNat = 90 := rfl
    have h9 : ('9' : Char).val.toNat = 57 := rfl
    omega
  exact decide_eq_true bound

theorem isBlank_of_isAsciiAlphanumeric {c : Char} (h : isAsciiAlphanumeric c = true) :
    isBlank c = false := by
  have small := toNat_lt_of_isAscii (isAscii_of_isAsciiAlphanumeric h)
  have blank : ∀ n < 128, isAsciiAlphanumeric (Char.ofNat n) = true →
      isBlank (Char.ofNat n) = false := by decide
  have same := blank c.toNat small
  rw [Char.ofNat_toNat] at same
  exact same h

end MemberAuth.Text
