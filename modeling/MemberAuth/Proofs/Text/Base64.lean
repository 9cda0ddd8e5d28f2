import MemberAuth.Proofs.Text.Bytes
import MemberAuth.Text.Base64

/-!
# Base64 reads back

What is written for some bytes reads as the same bytes. It is made of letters, digits, plus signs
and slashes only, four for every three bytes.
-/
namespace MemberAuth.Text.Base64

theorem value?_letter {n : Nat} (h : n < 64) : value? (letter n) = some n := by
  have all : ∀ n < 64, value? (letter n) = some n := by decide
  exact all n h

theorem letter_shape {n : Nat} (h : n < 64) :
    isAsciiAlphanumeric (letter n) = true ∨ letter n = '+' ∨ letter n = '/' := by
  have all : ∀ n < 64,
      isAsciiAlphanumeric (letter n) = true ∨ letter n = '+' ∨ letter n = '/' := by decide
  exact all n h

/-- The six-bit values that stand for some bytes. -/
def values : List UInt8 → List Nat
  | [] => []
  | [a] => [a.toNat / 4, a.toNat % 4 * 16]
  | [a, b] => [a.toNat / 4, a.toNat % 4 * 16 + b.toNat / 16, b.toNat % 16 * 4]
  | a :: b :: c :: rest =>
    a.toNat / 4 :: (a.toNat % 4 * 16 + b.toNat / 16) :: (b.toNat % 16 * 4 + c.toNat / 64)
      :: (c.toNat % 64) :: values rest

theorem encode_eq (bytes : List UInt8) : encode bytes = (values bytes).map letter := by
  induction bytes using encode.induct with
  | case1 => rfl
  | case2 a => rfl
  | case3 a b => rfl
  | case4 a b c rest ih => rw [encode, ih, values]; rfl

theorem values_lt (bytes : List UInt8) : ∀ n ∈ values bytes, n < 64 := by
  induction bytes using encode.induct with
  | case1 => simp [values]
  | case2 a =>
    have := a.toNat_lt
    simp only [values, List.mem_cons, List.not_mem_nil, or_false]
    omega
  | case3 a b =>
    have := a.toNat_lt
    have := b.toNat_lt
    simp only [values, List.mem_cons, List.not_mem_nil, or_false]
    omega
  | case4 a b c rest ih =>
    have := a.toNat_lt
    have := b.toNat_lt
    have := c.toNat_lt
    simp only [values, List.mem_cons]
    rintro n (rfl | rfl | rfl | rfl | hn)
    · omega
    · omega
    · omega
    · omega
    · exact ih n hn

theorem ofNat_eq_of_toNat {a : UInt8} {n : Nat} (h : n = a.toNat) : UInt8.ofNat n = a := by
  rw [h, UInt8.ofNat_toNat]

theorem bytes?_values (bytes : List UInt8) : bytes? (values bytes) = some bytes := by
  induction bytes using encode.induct with
  | case1 => rfl
  | case2 a =>
    have first : UInt8.ofNat (a.toNat / 4 * 4 + a.toNat % 4 * 16 / 16) = a :=
      ofNat_eq_of_toNat (by omega)
    rw [values, bytes?, if_pos (by omega), first]
  | case3 a b =>
    have := b.toNat_lt
    have first : UInt8.ofNat (a.toNat / 4 * 4 + (a.toNat % 4 * 16 + b.toNat / 16) / 16) = a :=
      ofNat_eq_of_toNat (by omega)
    have second : UInt8.ofNat ((a.toNat % 4 * 16 + b.toNat / 16) % 16 * 16
        + b.toNat % 16 * 4 / 4) = b :=
      ofNat_eq_of_toNat (by omega)
    rw [values, bytes?, if_pos (by omega), first, second]
  | case4 a b c rest ih =>
    have := b.toNat_lt
    have := c.toNat_lt
    have first : UInt8.ofNat (a.toNat / 4 * 4 + (a.toNat % 4 * 16 + b.toNat / 16) / 16) = a :=
      ofNat_eq_of_toNat (by omega)
    have second : UInt8.ofNat ((a.toNat % 4 * 16 + b.toNat / 16) % 16 * 16
        + (b.toNat % 16 * 4 + c.toNat / 64) / 4) = b :=
      ofNat_eq_of_toNat (by omega)
    have third : UInt8.ofNat ((b.toNat % 16 * 4 + c.toNat / 64) % 4 * 64 + c.toNat % 64) = c :=
      ofNat_eq_of_toNat (by omega)
    rw [values, bytes?, ih, first, second, third]
    rfl

theorem decode_encode (bytes : List UInt8) : decode (encode bytes) = some bytes := by
  have read : ∀ ns : List Nat, (∀ n ∈ ns, n < 64) → (ns.map letter).mapM value? = some ns := by
    intro ns small
    induction ns with
    | nil => rfl
    | cons n ns ih =>
      have first := value?_letter (small n List.mem_cons_self)
      have rest := ih fun m hm => small m (List.mem_cons_of_mem n hm)
      rw [List.map_cons, List.mapM_cons, first, rest]
      rfl
  rw [decode, encode_eq, read (values bytes) (values_lt bytes)]
  exact bytes?_values bytes

theorem mem_encode {bytes : List UInt8} {c : Char} (h : c ∈ encode bytes) :
    isAsciiAlphanumeric c = true ∨ c = '+' ∨ c = '/' := by
  rw [encode_eq] at h
  obtain ⟨n, hn, rfl⟩ := List.mem_map.mp h
  exact letter_shape (values_lt bytes n hn)

theorem length_encode (bytes : List UInt8) :
    (encode bytes).length = (bytes.length * 4 + 2) / 3 := by
  induction bytes using encode.induct with
  | case1 => rfl
  | case2 a => simp [encode]
  | case3 a b => simp [encode]
  | case4 a b c rest ih =>
    rw [encode]
    simp only [List.length_cons, ih]
    omega

end MemberAuth.Text.Base64
