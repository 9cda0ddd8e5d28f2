import Mathlib.Data.List.Forall2
import MemberAuth.Proofs.Text.Bytes

/-!
# Capital and small letters

Two texts are the same but for case if one becomes the other when some letters of ASCII are written
capital instead of small or small instead of capital. No other letter has a case here. Such texts
are exactly those that have the same spelling in small letters.
-/
namespace MemberAuth.Text

/-- The same character, or the same letter of ASCII in both of its cases. -/
def SameLetter (c d : Char) : Prop :=
  c = d ∨ isAsciiLetter c = true ∧ isAsciiLetter d = true ∧
    (c.toNat = d.toNat + 32 ∨ d.toNat = c.toNat + 32)

/-- The texts differ in the case of letters at most. -/
def SameButCase (s t : String) : Prop :=
  List.Forall₂ SameLetter s.toList t.toList

theorem isAsciiLetter_iff {c : Char} :
    isAsciiLetter c = true ↔ (97 ≤ c.toNat ∧ c.toNat ≤ 122) ∨ (65 ≤ c.toNat ∧ c.toNat ≤ 90) := by
  simp only [isAsciiLetter, Bool.or_eq_true, Bool.and_eq_true, decide_eq_true_eq, Char.le_def,
    UInt32.le_iff_toNat_le]
  rfl

theorem toNat_ofNat {n : Nat} (small : n < 128) : (Char.ofNat n).toNat = n := by
  have valid : n.isValidChar := Or.inl (by omega)
  rw [Char.ofNat, dif_pos valid]
  rfl

theorem toNat_asciiLower (c : Char) :
    (asciiLower c).toNat = if 65 ≤ c.toNat ∧ c.toNat ≤ 90 then c.toNat + 32 else c.toNat := by
  have capital : ('A' ≤ c && c ≤ 'Z') = true ↔ 65 ≤ c.toNat ∧ c.toNat ≤ 90 := by
    simp only [Bool.and_eq_true, decide_eq_true_eq, Char.le_def, UInt32.le_iff_toNat_le]
    rfl
  rw [asciiLower]
  by_cases between : 65 ≤ c.toNat ∧ c.toNat ≤ 90
  · rw [if_pos (capital.mpr between), if_pos between]
    exact toNat_ofNat (by omega)
  · rw [if_neg (mt capital.mp between), if_neg between]

theorem sameLetter_iff {c d : Char} : SameLetter c d ↔ asciiLower c = asciiLower d := by
  rw [SameLetter, isAsciiLetter_iff, isAsciiLetter_iff, ← Char.toNat_inj, ← Char.toNat_inj,
    toNat_asciiLower, toNat_asciiLower]
  constructor
  · rintro (same | ⟨hc, hd, apart⟩)
    · rw [same]
    · split <;> split <;> omega
  · intro same
    split at same <;> split at same <;> omega

theorem sameButCase_iff {s t : String} :
    SameButCase s t ↔ s.toList.map asciiLower = t.toList.map asciiLower := by
  have letters : SameLetter = fun c d => asciiLower c = asciiLower d := by
    funext c d
    exact propext sameLetter_iff
  rw [← List.forall₂_eq_eq_eq, List.forall₂_map_left_iff, List.forall₂_map_right_iff, SameButCase,
    letters]

/-- What is blind to case among the characters of ASCII is so among all. -/
theorem apply_asciiLower {α : Type} {f : Char → α}
    (blind : ∀ n < 128, f (asciiLower (Char.ofNat n)) = f (Char.ofNat n)) (c : Char) :
    f (asciiLower c) = f c := by
  by_cases ascii : c.toNat < 128
  · have own := blind c.toNat ascii
    rwa [Char.ofNat_toNat] at own
  · have same : asciiLower c = c := by
      rw [← Char.toNat_inj, toNat_asciiLower, if_neg (by omega)]
    rw [same]

namespace SameButCase

variable {s t : String}

/-- A test that is blind to case finds the same in both. -/
theorem all_eq (h : SameButCase s t) {p : Char → Bool} (blind : ∀ c, p (asciiLower c) = p c) :
    s.toList.all p = t.toList.all p := by
  have lower : p ∘ asciiLower = p := funext blind
  have same := congrArg (List.all · p) (sameButCase_iff.mp h)
  simpa only [List.all_map, lower] using same

theorem utf8ByteSize_eq (h : SameButCase s t) : s.utf8ByteSize = t.utf8ByteSize := by
  have size (u : String) : u.utf8ByteSize = (u.toList.map Char.utf8Size).sum := by
    rw [← length_textBytes, textBytes, List.length_flatMap]
    simp only [String.length_utf8EncodeChar]
  have lower : Char.utf8Size ∘ asciiLower = Char.utf8Size :=
    funext (apply_asciiLower (by decide))
  have same := congrArg (fun cs => (cs.map Char.utf8Size).sum) (sameButCase_iff.mp h)
  simp only [List.map_map, lower] at same
  rw [size, size, same]

theorem isEmpty_eq (h : SameButCase s t) : s.isEmpty = t.isEmpty := by
  rw [String.isEmpty_eq_utf8ByteSize_beq_zero, String.isEmpty_eq_utf8ByteSize_beq_zero,
    h.utf8ByteSize_eq]

end SameButCase

end MemberAuth.Text
