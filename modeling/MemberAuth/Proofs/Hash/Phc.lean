import MemberAuth.Hash.Phc
import MemberAuth.Proofs.Text.Base64
import MemberAuth.Proofs.Text.Digits

/-!
# Written hashes read back

The text in which a hash is stored reads as scrypt without a version, with the cost, the salt and
the output that it was written with.
-/
namespace MemberAuth.Text

theorem plainDecimal?_decimal (n : Nat) : plainDecimal? (decimal n) = some n := by
  have digits : (decimal n).all isDigit = true :=
    List.all_eq_true.mpr fun c hc => isDigit_of_mem_decimal hc
  by_cases positive : 0 < n
  · have head (rest : List Char) : decimal n ≠ '0' :: rest := by
      intro written
      have first := decimal_head_ne_zero positive
      rw [written] at first
      exact first rfl
    rw [plainDecimal?, if_pos digits, digitsValue_decimal]
    · exact decimal_ne_nil n
    · exact head []
    · exact head
  · obtain rfl : n = 0 := Nat.eq_zero_of_not_pos positive
    rfl

end MemberAuth.Text

namespace MemberAuth.Hash.Phc

open Text

theorem all_decimal (n : Nat) : (decimal n).all isDigit = true :=
  List.all_eq_true.mpr fun _ hc => isDigit_of_mem_decimal hc

theorem not_mem_of_all {kind : Char → Bool} {c : Char} {cs : List Char}
    (h : cs.all kind = true) (other : kind c = false) : c ∉ cs := by
  intro mem
  rw [List.all_eq_true.mp h c mem] at other
  cases other

theorem length_decimal_of_word {n : Nat} (h : n < UInt32.size) : (decimal n).length ≤ 10 :=
  (length_decimal_le (by decide)).mpr (Nat.lt_trans h (by decide))

theorem isValue_decimal {n : Nat} (h : n < UInt32.size) : isValue (decimal n) = true := by
  rw [isValue, Bool.and_eq_true, decide_eq_true_iff, List.all_eq_true]
  refine ⟨Nat.le_trans (length_decimal_of_word h) (by decide), fun c hc => ?_⟩
  simp [isValueChar, isAsciiAlphanumeric, isDigit_of_mem_decimal hc]

theorem word?_decimal {n : Nat} (h : n < UInt32.size) : word? (decimal n) = some n := by
  rw [word?, plainDecimal?_decimal]
  simp [isValue_decimal h, h]

/-- A parameter as it is written. -/
def written (name : List Char) (n : Nat) : List Char :=
  name ++ '=' :: decimal n

theorem parameter?_written {name : List Char} {n : Nat} (named : isName name = true)
    (h : n < UInt32.size) : parameter? (written name n) = some (name, decimal n) := by
  have letters : name.all isNameChar = true := by
    rw [isName, Bool.and_eq_true] at named
    exact named.2
  have parts : ∀ part ∈ [name, decimal n], '=' ∉ part := by
    intro part hp
    rcases List.mem_cons.mp hp with rfl | hp
    · exact not_mem_of_all letters (by decide)
    · rw [List.mem_singleton.mp hp]
      exact not_mem_of_all (all_decimal n) (by decide)
  have whole : ['='].intercalate [name, decimal n] = written name n := by
    simp [List.intercalate, written]
  have split := List.splitOn_intercalate '=' parts (by simp)
  rw [whole] at split
  rw [parameter?, split]
  simp [named, isValue_decimal h]

/-- The numbers of a cost are written as three parameters. -/
def writtenCost (cost : Cost) : List (List Char) :=
  [written ['l', 'n'] cost.logN, written ['r'] cost.r, written ['p'] cost.p]

def costParameters (cost : Cost) : List (List Char × List Char) :=
  [(['l', 'n'], decimal cost.logN), (['r'], decimal cost.r), (['p'], decimal cost.p)]

theorem cost_lt (cost : Cost) :
    cost.logN < 64 ∧ cost.r < UInt32.size ∧ cost.p < UInt32.size := by
  have valid := cost.valid
  simp only [Scrypt.admissible, Bool.and_eq_true, decide_eq_true_eq] at valid
  obtain ⟨⟨⟨⟨⟨⟨small, hr⟩, hp⟩, _⟩, _⟩, _⟩, product⟩ := valid
  have product : cost.r * cost.p < 2 ^ 30 := product
  have left : cost.r ≤ cost.r * cost.p := Nat.le_mul_of_pos_right _ hp
  have right : cost.p ≤ cost.r * cost.p := Nat.le_mul_of_pos_left _ hr
  have size : UInt32.size = 2 ^ 32 := rfl
  exact ⟨small, by omega, by omega⟩

theorem mem_writtenCost {cost : Cost} {part : List Char} (h : part ∈ writtenCost cost) :
    ∃ name n, part = written name n ∧ name.length ≤ 2 ∧ name.all isNameChar = true ∧
      n < UInt32.size := by
  obtain ⟨logN, r, p⟩ := cost_lt cost
  simp only [writtenCost, List.mem_cons, List.not_mem_nil, or_false] at h
  rcases h with rfl | rfl | rfl
  · exact ⟨_, _, rfl, by decide, by decide, Nat.lt_trans logN (by decide)⟩
  · exact ⟨_, _, rfl, by decide, by decide, r⟩
  · exact ⟨_, _, rfl, by decide, by decide, p⟩

def costText (cost : Cost) : List Char :=
  [','].intercalate (writtenCost cost)

theorem costText_eq (cost : Cost) :
    costText cost = 'l' :: 'n' :: '=' :: (decimal cost.logN ++ ',' :: 'r' :: '=' ::
      (decimal cost.r ++ ',' :: 'p' :: '=' :: decimal cost.p)) := by
  simp [costText, List.intercalate, writtenCost, written]

theorem mem_costText {cost : Cost} {c : Char} (h : c ∈ costText cost) :
    isNameChar c = true ∨ c = '=' ∨ c = ',' := by
  have digit {n : Nat} (hc : c ∈ decimal n) : isNameChar c = true := by
    simp [isNameChar, isDigit_of_mem_decimal hc]
  simp only [costText_eq, List.mem_cons, List.mem_append] at h
  rcases h with rfl | rfl | rfl | h | rfl | rfl | rfl | h | rfl | rfl | rfl | h
  all_goals first
    | exact Or.inl (digit h)
    | decide

theorem isAscii_of_isNameChar {c : Char} (h : isNameChar c = true) : isAscii c = true := by
  simp only [isNameChar, isDigit, Bool.or_eq_true, Bool.and_eq_true, decide_eq_true_eq, beq_iff_eq,
    Char.le_def, UInt32.le_iff_toNat_le] at h
  have bound : c.toNat < 128 := by
    rcases h with (h | h) | rfl
    · have hz : ('z' : Char).val.toNat = 122 := rfl
      change c.val.toNat < 128
      omega
    · have h9 : ('9' : Char).val.toNat = 57 := rfl
      change c.val.toNat < 128
      omega
    · decide
  exact decide_eq_true bound

theorem size_costText (cost : Cost) : (String.ofList (costText cost)).utf8ByteSize ≤ 127 := by
  have ascii : ∀ c ∈ (String.ofList (costText cost)).toList, isAscii c = true := by
    intro c hc
    rw [String.toList_ofList] at hc
    rcases mem_costText hc with name | rfl | rfl
    · exact isAscii_of_isNameChar name
    · decide
    · decide
  obtain ⟨logN, r, p⟩ := cost_lt cost
  have one := length_decimal_of_word (Nat.lt_trans logN (by decide))
  have two := length_decimal_of_word r
  have three := length_decimal_of_word p
  rw [utf8ByteSize_of_ascii ascii, String.length_ofList, costText_eq]
  simp only [List.length_cons, List.length_append]
  omega

theorem parameters?_costText (cost : Cost) :
    parameters? (costText cost) = some (costParameters cost) := by
  have apart : ∀ part ∈ writtenCost cost, ',' ∉ part := by
    intro part hp
    obtain ⟨name, n, rfl, _, letters, _⟩ := mem_writtenCost hp
    rw [written, List.mem_append, List.mem_cons]
    rintro (mem | comma | mem)
    · exact not_mem_of_all letters (by decide) mem
    · cases comma
    · exact not_mem_of_all (all_decimal n) (by decide) mem
  have split : (costText cost).splitOn ',' = writtenCost cost :=
    List.splitOn_intercalate ',' apart (by simp [writtenCost])
  obtain ⟨logN, r, p⟩ := cost_lt cost
  have logN := parameter?_written (by decide : isName ['l', 'n'] = true)
    (Nat.lt_trans logN (by decide))
  have r := parameter?_written (by decide : isName ['r'] = true) r
  have p := parameter?_written (by decide : isName ['p'] = true) p
  rw [parameters?, if_pos (size_costText cost), split, writtenCost]
  simp only [List.mapM_cons, List.mapM_nil, logN, r, p]
  rfl

theorem foldlM_costParameters (cost : Cost) :
    (costParameters cost).foldlM Numbers.assign Numbers.standard =
      some ⟨cost.logN, cost.r, cost.p⟩ := by
  obtain ⟨logN, r, p⟩ := cost_lt cost
  have logN' := word?_decimal (Nat.lt_trans logN (by decide))
  have r' := word?_decimal r
  have p' := word?_decimal p
  have small : cost.logN ≤ 255 := by omega
  simp [costParameters, Numbers.assign, logN', r', p', small]

theorem cost?_costParameters (cost : Cost) {h : Phc} (hp : h.parameters = costParameters cost) :
    h.cost? = some cost := by
  rw [cost?, hp, foldlM_costParameters]
  simp [Cost.of?, cost.valid]

theorem isSalt_encode {salt : List UInt8} (long : 3 ≤ salt.length) (short : salt.length ≤ 48) :
    isSalt (Base64.encode salt) = true := by
  have letters : (Base64.encode salt).all isValueChar = true := by
    rw [List.all_eq_true]
    intro c hc
    rcases Base64.mem_encode hc with h | rfl | rfl
    · simp [isValueChar, h]
    · decide
    · decide
  have length := Base64.length_encode salt
  rw [isSalt, isValue, letters, Bool.and_true, Bool.and_eq_true, decide_eq_true_iff,
    decide_eq_true_iff]
  omega

theorem dollar_not_mem_encode (bytes : List UInt8) : '$' ∉ Base64.encode bytes := by
  intro mem
  rcases Base64.mem_encode mem with h | h | h
  · exact absurd h (by decide)
  · cases h
  · cases h

theorem splitOn_write (cost : Cost) (salt output : List UInt8) :
    (write cost salt output).toList.splitOn '$' =
      [[], scryptName, costText cost, Base64.encode salt, Base64.encode output] := by
  have apart : ∀ field ∈ [[], scryptName, costText cost, Base64.encode salt, Base64.encode output],
      '$' ∉ field := by
    simp only [List.mem_cons, List.not_mem_nil, or_false]
    rintro field (rfl | rfl | rfl | rfl | rfl)
    · exact List.not_mem_nil
    · decide
    · intro mem
      rcases mem_costText mem with h | h | h
      · exact absurd h (by decide)
      · cases h
      · cases h
    · exact dollar_not_mem_encode salt
    · exact dollar_not_mem_encode output
  have whole : (write cost salt output).toList = ['$'].intercalate
      [[], scryptName, costText cost, Base64.encode salt, Base64.encode output] := by
    rw [write, String.toList_ofList]
    simp [List.intercalate, costText_eq]
  rw [whole]
  exact List.splitOn_intercalate '$' apart (by simp)

/-- What a stored hash is read as. -/
theorem parse?_write (cost : Cost) {salt output : List UInt8} (hs : 3 ≤ salt.length)
    (hs' : salt.length ≤ 48) (ho : 10 ≤ output.length) (ho' : output.length ≤ 64) :
    parse? (write cost salt output) = some
      ⟨scryptName, none, costParameters cost, some (Base64.encode salt), some output⟩ := by
  have version : takeVersion [costText cost, Base64.encode salt, Base64.encode output] =
      some (none, [costText cost, Base64.encode salt, Base64.encode output]) := by
    rw [costText_eq]
    rfl
  have parameters : takeParameters [costText cost, Base64.encode salt, Base64.encode output] =
      some (costParameters cost, [Base64.encode salt, Base64.encode output]) := by
    have equals : (costText cost).contains '=' = true := by
      simp [costText_eq]
    rw [takeParameters, if_pos equals, parameters?_costText]
    rfl
  have rest : takeSalt [Base64.encode salt, Base64.encode output] =
      some (some (Base64.encode salt), some output) := by
    rw [takeSalt, if_pos (isSalt_encode hs hs'), output?, Base64.decode_encode]
    simp [ho, ho']
  have name : isName scryptName = true := by decide
  rw [parse?, splitOn_write]
  simp [name, version, parameters, rest]

end MemberAuth.Hash.Phc
