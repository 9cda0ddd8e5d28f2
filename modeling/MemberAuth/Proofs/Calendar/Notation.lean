import MemberAuth.Calendar.Notation
import MemberAuth.Proofs.Text.Digits

/-!
# Written dates read back

Every date that the system can keep is read back from its written form: the year with or without a
sign, the month and the day.
-/
namespace MemberAuth

namespace Calendar

open Text

theorem endsDigits_take {rest : List Char} (ends : EndsDigits rest) (k : Nat) :
    EndsDigits (rest.take k) := by
  intro c hc
  cases k with
  | zero => simp at hc
  | succ k =>
    cases rest with
    | nil => simp at hc
    | cons d rest => exact ends c hc

theorem takeNumber_digits {limit : Nat} {ds rest : List Char}
    (digits : ∀ c ∈ ds, isDigit c = true) (some_digit : ds ≠ []) (fits : ds.length ≤ limit)
    (ends : EndsDigits rest) : takeNumber limit (ds ++ rest) = some (digitsValue ds, rest) := by
  have run : ((ds ++ rest).take limit).takeWhile isDigit = ds := by
    rw [List.take_append, List.take_of_length_le fits]
    exact takeWhile_digits digits (endsDigits_take ends _)
  simp [takeNumber, run, some_digit]

theorem takeNumber_padded {width n : Nat} {rest : List Char} (hw : 0 < width)
    (h : n < 10 ^ width) (ends : EndsDigits rest) :
    takeNumber width (padded width n ++ rest) = some (n, rest) := by
  rw [takeNumber_digits (fun c hc => mem_padded hc) (padded_ne_nil width n)
    (Nat.le_of_eq (length_padded hw h)) ends, digitsValue_padded]

theorem isDigit_iff {c : Char} : isDigit c = true ↔ 48 ≤ c.toNat ∧ c.toNat ≤ 57 := by
  simp only [isDigit, Bool.and_eq_true, decide_eq_true_eq, Char.le_def, UInt32.le_iff_toNat_le]
  rfl

theorem isBlank_of_isDigit {c : Char} (h : isDigit c = true) : isBlank c = false := by
  have := isDigit_iff.mp h
  simp only [isBlank, Bool.or_eq_false_iff, Bool.and_eq_false_iff, decide_eq_false_iff_not,
    beq_eq_false_iff_ne]
  omega

theorem skipBlanks_digits {ds : List Char} (digits : ∀ c ∈ ds, isDigit c = true)
    (some_digit : ds ≠ []) (rest : List Char) : skipBlanks (ds ++ rest) = ds ++ rest := by
  cases ds with
  | nil => exact absurd rfl some_digit
  | cons c ds =>
    have := isBlank_of_isDigit (digits c List.mem_cons_self)
    simp [skipBlanks, this]

theorem skipBlanks_padded (width n : Nat) (rest : List Char) :
    skipBlanks (padded width n ++ rest) = padded width n ++ rest :=
  skipBlanks_digits (fun _ h => mem_padded h) (padded_ne_nil width n) rest

theorem takeNumber_all {width n : Nat} {rest : List Char} (ends : EndsDigits rest) :
    takeNumber (padded width n ++ rest).length (padded width n ++ rest) = some (n, rest) := by
  rw [takeNumber_digits (fun c hc => mem_padded hc) (padded_ne_nil width n) (by simp) ends,
    digitsValue_padded]

/-- A year without a sign has four digits at most. -/
theorem takeYear_of_digit {cs : List Char} (h : ∃ c, cs.head? = some c ∧ isDigit c = true) :
    takeYear cs = (takeNumber 4 cs).map fun (n, tail) => ((n : Int), tail) := by
  obtain ⟨c, head, digit⟩ := h
  unfold takeYear
  split
  · cases head
    exact absurd digit (by decide)
  · cases head
    exact absurd digit (by decide)
  · rfl

theorem head_padded (width n : Nat) (rest : List Char) :
    ∃ c, (padded width n ++ rest).head? = some c ∧ isDigit c = true := by
  cases h : padded width n with
  | nil => exact absurd h (padded_ne_nil width n)
  | cons c ds => exact ⟨c, rfl, mem_padded (by rw [h]; exact List.mem_cons_self)⟩

theorem takeYear_yearText (year : Int) {rest : List Char} (ends : EndsDigits rest) :
    takeYear (skipBlanks (yearText year ++ rest)) = some (year, rest) := by
  by_cases plain : 0 ≤ year ∧ year ≤ 9999
  · rw [yearText, if_pos plain, skipBlanks_padded, takeYear_of_digit (head_padded _ _ _),
      takeNumber_padded (by decide) (by omega) ends]
    change some ((year.toNat : Int), rest) = some (year, rest)
    rw [Int.toNat_of_nonneg plain.1]
  · rw [yearText, if_neg plain]
    by_cases negative : year < 0
    · rw [if_pos negative]
      have signed : skipBlanks ('-' :: padded 4 year.natAbs ++ rest) =
        '-' :: (padded 4 year.natAbs ++ rest) := rfl
      have value : -(year.natAbs : Int) = year := by omega
      rw [signed, takeYear, takeNumber_all ends]
      change some (-(year.natAbs : Int), rest) = some (year, rest)
      rw [value]
    · rw [if_neg negative]
      have signed : skipBlanks ('+' :: padded 4 year.natAbs ++ rest) =
        '+' :: (padded 4 year.natAbs ++ rest) := rfl
      have value : (year.natAbs : Int) = year := by omega
      rw [signed, takeYear, takeNumber_all ends]
      change some ((year.natAbs : Int), rest) = some (year, rest)
      rw [value]

theorem endsDigits_hyphen (rest : List Char) : EndsDigits ('-' :: rest) := by
  intro c hc
  cases hc
  decide

theorem takeHyphen_cons (rest : List Char) : takeHyphen ('-' :: rest) = some rest := rfl

theorem daysInMonth_le (year : Int) (month : Nat) : daysInMonth year month ≤ 31 := by
  unfold daysInMonth
  split
  · split <;> decide
  · decide
  · decide
  · decide
  · decide
  · decide

end Calendar

namespace Date

open Calendar

/-- Two digits are enough for a month. -/
theorem month_lt (d : Date) : d.month < 10 ^ 2 := by
  have valid := d.valid
  simp only [isDate, Bool.and_eq_true, decide_eq_true_eq] at valid
  omega

theorem day_lt (d : Date) : d.day < 10 ^ 2 := by
  have valid := d.valid
  have days := daysInMonth_le d.year d.month
  simp only [isDate, Bool.and_eq_true, decide_eq_true_eq] at valid
  omega

end Date

namespace Calendar

open Text

/-- Every date reads back from its written form. -/
theorem parseDate_dateText (d : Date) : parseDate (dateText d) = some d := by
  have last : takeNumber 2 (skipBlanks (padded 2 d.day)) = some (d.day, []) := by
    have := skipBlanks_padded 2 d.day []
    rw [List.append_nil] at this
    rw [this, ← List.append_nil (padded 2 d.day)]
    exact takeNumber_padded (by decide) d.day_lt (by simp [EndsDigits])
  rw [parseDate, dateText, List.append_assoc, List.cons_append,
    takeYear_yearText d.year (endsDigits_hyphen _)]
  simp only [Option.bind_eq_bind, Option.bind_some, takeHyphen_cons,
    skipBlanks_padded, takeNumber_padded (by decide : 0 < 2) d.month_lt (endsDigits_hyphen _), last]
  exact d.ofYmd?_self

end Calendar

end MemberAuth
