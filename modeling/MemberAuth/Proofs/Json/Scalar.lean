import MemberAuth.Json.Written
import MemberAuth.Proofs.Calendar.Notation

/-!
# Written scalars read back

A string with its escapes and an integer with its sign are read back as they were written, whatever
follows a string, and whatever but a digit, a point or an exponent follows an integer.
-/
namespace MemberAuth.Json

open Text

theorem hexValue_hexDigit {n : Nat} (h : n < 16) : hexValue? (hexDigit n) = some n := by
  have all : ∀ n < 16, hexValue? (hexDigit n) = some n := by decide
  exact all n h

/-- A control character reads back from its escape with four digits. -/
theorem readChars_control {c : Char} (h : c.toNat < 0x20) (tail : List Char) :
    readChars ('\\' :: 'u' :: '0' :: '0' :: hexDigit (c.toNat / 16) :: hexDigit (c.toNat % 16) ::
      tail) = consChar c (readChars tail) := by
  have quad : hexQuad? '0' '0' (hexDigit (c.toNat / 16)) (hexDigit (c.toNat % 16)) =
      some c.toNat := by
    have zero : hexValue? '0' = some 0 := by decide
    simp only [hexQuad?, zero, hexValue_hexDigit (show c.toNat / 16 < 16 by omega),
      hexValue_hexDigit (show c.toNat % 16 < 16 by omega), Option.bind_eq_bind, Option.bind_some]
    exact congrArg some (by omega)
  have low : isLowHalf c.toNat = false := by
    simp only [isLowHalf, Bool.and_eq_false_iff, decide_eq_false_iff_not]
    omega
  have high : isHighHalf c.toNat = false := by
    simp only [isHighHalf, Bool.and_eq_false_iff, decide_eq_false_iff_not]
    omega
  rw [readChars, quad]
  simp only [low, high, Char.ofNat_toNat]
  rfl

theorem readChars_plain {c : Char} (quote : c ≠ '"') (backslash : c ≠ '\\')
    (h : ¬c.toNat < 0x20) (tail : List Char) :
    readChars (c :: tail) = consChar c (readChars tail) := by
  rw [readChars.eq_def]
  split
  · rename_i heq
    cases heq
  · rename_i heq
    cases heq
    exact absurd rfl quote
  · rename_i heq
    cases heq
    exact absurd rfl backslash
  · rename_i heq
    cases heq
    exact absurd rfl backslash
  · rename_i heq
    cases heq
    exact absurd rfl backslash
  · rename_i heq
    cases heq
    exact absurd rfl backslash
  · rename_i heq
    cases heq
    rw [if_neg h]

theorem readChars_escapeChar (c : Char) (tail : List Char) :
    readChars (escapeChar c ++ tail) = consChar c (readChars tail) := by
  unfold escapeChar
  split
  · simp [readChars, simpleEscape?]
  · simp [readChars, simpleEscape?]
  · simp [readChars, simpleEscape?]
  · simp [readChars, simpleEscape?]
  · simp [readChars, simpleEscape?]
  · simp [readChars, simpleEscape?]
  · simp [readChars, simpleEscape?]
  · split
    · rename_i h
      exact readChars_control h tail
    · rename_i quote backslash _ _ _ _ _ h
      exact readChars_plain quote backslash h tail

theorem readChars_escaped (text rest : List Char) :
    readChars (text.flatMap escapeChar ++ '"' :: rest) = .ok (text, rest) := by
  induction text with
  | nil => simp [readChars]
  | cons c text ih =>
    rw [List.flatMap_cons, List.append_assoc, readChars_escapeChar, ih]
    rfl

theorem skipSpace_cons {c : Char} (h : isSpace c = false) (rest : List Char) :
    skipSpace (c :: rest) = c :: rest := by
  simp [skipSpace, h]

theorem readString_writeString (text rest : List Char) :
    readString (writeString text ++ rest) = .ok (text, rest) := by
  have start : skipSpace (writeString text ++ rest) =
      '"' :: (text.flatMap escapeChar ++ '"' :: rest) := by
    rw [writeString, List.cons_append, List.cons_append, List.append_assoc]
    exact skipSpace_cons (by decide) _
  rw [readString, start]
  exact readChars_escaped text rest

/-- Nothing follows that could belong to a number. -/
def EndsNumber (rest : List Char) : Prop :=
  ∀ c, rest.head? = some c → isDigit c = false ∧ c ≠ '.' ∧ isExponentMark c = false

theorem EndsNumber.endsDigits {rest : List Char} (h : EndsNumber rest) : EndsDigits rest :=
  fun c hc => (h c hc).1

theorem le_ofDigitChars (ds : List Char) (n : Nat) : n ≤ Nat.ofDigitChars 10 ds n := by
  rw [Nat.ofDigitChars_eq_ofDigitChars_zero]
  have : 1 * n ≤ 10 ^ ds.length * n := Nat.mul_le_mul_right n (Nat.pow_pos (by decide))
  omega

/-- All digits of a number that fits are taken. -/
theorem gather_of_lt {ds : List Char} {n : Nat}
    (fits : Nat.ofDigitChars 10 ds n < UInt64.size) :
    gather n ds = (Nat.ofDigitChars 10 ds n, ds.length) := by
  induction ds generalizing n with
  | nil => rfl
  | cons d ds ih =>
    rw [Nat.ofDigitChars_cons] at fits ⊢
    have next : n * 10 + (d.toNat - 48) = 10 * n + (d.toNat - '0'.toNat) := by
      rw [Nat.mul_comm]
      rfl
    have below : n * 10 + (d.toNat - 48) < UInt64.size := by
      rw [next]
      exact Nat.lt_of_le_of_lt (le_ofDigitChars ds _) fits
    rw [gather, if_pos below, next, ih fits]
    rfl

theorem gather_decimal {n : Nat} (h : n < UInt64.size) :
    gather 0 (decimal n) = (n, (decimal n).length) := by
  have value := digitsValue_decimal n
  rw [digitsValue_eq] at value
  rw [gather_of_lt (by rwa [value]), value]

/-- What the reading of a whole number comes to. -/
def wholeValue (negative : Bool) (n : Nat) : Option Int :=
  if !negative then some (n : Int)
  else if n = 0 ∨ 0x8000000000000000 < n then none
  else some (-(n : Int))

theorem readMagnitude_decimal (negative : Bool) {n : Nat} (h : n < UInt64.size)
    {rest : List Char} (ends : EndsNumber rest) :
    readMagnitude negative (decimal n ++ rest) = .ok (wholeValue negative n, rest) := by
  have digits : ∀ c ∈ decimal n, isDigit c = true := fun c hc => isDigit_of_mem_decimal hc
  have taken := takeWhile_digits digits ends.endsDigits
  have left := dropWhile_digits digits ends.endsDigits
  obtain ⟨c, ds, hd, digit⟩ := decimal_eq_cons n
  have no_zero : (decide (c = '0') && ((ds ++ rest).head?.map isDigit).getD false) = false := by
    by_cases hc : c = '0'
    · subst hc
      have zero : n = 0 := by
        by_contra hn
        exact decimal_head_ne_zero (Nat.pos_of_ne_zero hn) (by rw [hd]; rfl)
      have alone : ds = [] := by
        rw [zero] at hd
        exact (List.cons.inj hd).2.symm
      rw [alone]
      cases rest with
      | nil => rfl
      | cons d rest => exact ends.endsDigits d rfl
    · simp [hc]
  rw [hd, List.cons_append] at taken left ⊢
  have whole : gather 0 (c :: ds) = (n, (c :: ds).length) := by
    rw [← hd]
    exact gather_decimal h
  rw [readMagnitude]
  simp only [taken, left, whole, digit, no_zero, Bool.not_true, Bool.false_eq_true, if_false,
    Int.sub_self, ne_eq, not_true_eq_false]
  have value : (if (!negative) = true then Except.ok (some (n : Int), rest)
      else if n = 0 ∨ 0x8000000000000000 < n then Except.ok (none, rest)
      else Except.ok (some (-(n : Int)), rest)) =
        (Except.ok (wholeValue negative n, rest) : Except ReadError _) := by
    rw [wholeValue]
    split
    · rfl
    · split <;> rfl
  cases rest with
  | nil => exact value
  | cons m rest =>
    obtain ⟨_, point, exponent⟩ := ends m rfl
    simp only [point, exponent, if_false, Bool.false_eq_true]
    exact value

/-- A negative number reads back from 64 bits. -/
theorem wholeValue_natAbs {v : Int} (negative : v < 0) (low : -0x8000000000000000 ≤ v) :
    wholeValue true v.natAbs = some v := by
  have nonzero : ¬(v.natAbs = 0 ∨ 0x8000000000000000 < v.natAbs) := by omega
  have value : -(v.natAbs : Int) = v := by omega
  rw [wholeValue, if_neg (by decide), if_neg nonzero, value]

theorem readNumber_writeInt {v : Int} (low : -0x8000000000000000 ≤ v)
    (high : v < 0x8000000000000000) {rest : List Char} (ends : EndsNumber rest) :
    readNumber (writeInt v ++ rest) = .ok (some v, rest) := by
  have fits : v.natAbs < UInt64.size := by
    have : UInt64.size = 0x10000000000000000 := rfl
    omega
  by_cases negative : v < 0
  · rw [writeInt, if_pos negative, List.cons_append, readNumber,
      readMagnitude_decimal true fits ends, wholeValue_natAbs negative low]
  · obtain ⟨c, ds, hd, digit⟩ := decimal_eq_cons v.natAbs
    have unsigned : readNumber (decimal v.natAbs ++ rest) =
        readMagnitude false (decimal v.natAbs ++ rest) := by
      rw [hd]
      unfold readNumber
      split
      · rename_i heq
        cases heq
        exact absurd digit (by decide)
      · rfl
    have value : (v.natAbs : Int) = v := by omega
    rw [writeInt, if_neg negative, unsigned, readMagnitude_decimal false fits ends, wholeValue,
      if_pos (by decide), value]

theorem isSpace_of_isDigit {c : Char} (h : isDigit c = true) : isSpace c = false := by
  by_contra space
  simp only [isSpace, Bool.not_eq_false, Bool.or_eq_true, beq_iff_eq] at space
  rcases space with ((rfl | rfl) | rfl) | rfl <;> exact absurd h (by decide)

/-- An integer starts with its sign or with a digit. -/
theorem writeInt_eq_cons (v : Int) :
    ∃ c ds, writeInt v = c :: ds ∧ (c = '-' ∨ isDigit c = true) := by
  rw [writeInt]
  split
  · exact ⟨_, _, rfl, Or.inl rfl⟩
  · obtain ⟨c, ds, hd, digit⟩ := decimal_eq_cons v.natAbs
    exact ⟨c, ds, hd, Or.inr digit⟩

theorem readInt64_writeInt (v : Int64) {rest : List Char} (ends : EndsNumber rest) :
    readInt64 (writeInt v.toInt ++ rest) = .ok (v, rest) := by
  have low : Int64.minValue.toInt ≤ v.toInt := v.minValue_le_toInt
  have high : v.toInt ≤ Int64.maxValue.toInt := v.toInt_le
  have read := readNumber_writeInt (v := v.toInt) low (Int.lt_of_le_of_lt high (by decide)) ends
  obtain ⟨c, ds, hc, first⟩ := writeInt_eq_cons v.toInt
  rw [hc, List.cons_append] at read ⊢
  have space : isSpace c = false := by
    rcases first with rfl | digit
    · decide
    · exact isSpace_of_isDigit digit
  have number : (c = '-' || isDigit c) = true := by simpa using first
  rw [readInt64, skipSpace_cons space]
  simp only [number, if_true, read, low, high, and_self, Int64.ofInt_toInt]

end MemberAuth.Json
