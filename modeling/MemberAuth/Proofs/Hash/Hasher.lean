import MemberAuth.Hash.Hasher
import MemberAuth.Proofs.Hash.Phc

/-!
# Which passwords a stored hash accepts

A hash reads back with everything that it was made from but the password, so it can be checked
whatever the cost of new hashes is. A password verifies against it if it derives the same output as
the password that the hash was made from. The derivation looks at a password only through its block
key, the 64 bytes that keyed hashing makes of it: for passwords of up to 64 bytes these are the bytes
of the password with zeros behind them, so such passwords have one key exactly if one is the other
with NUL characters behind it.
-/
namespace MemberAuth.Hash

open Text

theorem length_deriveKey (password salt : List UInt8) (length : Nat) :
    (deriveKey password salt length).length = length := by
  have blocks : ∀ ns : List Nat, (ns.flatMap fun i =>
      hmac password (salt ++ bigEndian (UInt32.ofNat (i + 1)))).length = 32 * ns.length := by
    intro ns
    induction ns with
    | nil => rfl
    | cons n ns ih =>
      rw [List.flatMap_cons, List.length_append, length_hmac, ih, List.length_cons]
      omega
  rw [deriveKey, List.length_take, blocks, List.length_range]
  omega

theorem length_scrypt (cost : Cost) (password salt : List UInt8) (length : Nat) :
    (scrypt cost password salt length).length = length :=
  length_deriveKey _ _ _

theorem Hasher.verify_write (h : Hasher) (cost : Cost) {salt output : List UInt8}
    (hs : 3 ≤ salt.length) (hs' : salt.length ≤ 48) (ho : 10 ≤ output.length)
    (ho' : output.length ≤ 64) (attempt : String) :
    h.verify (Phc.write cost salt output) attempt = true ↔
      scrypt cost (textBytes attempt) salt output.length = output := by
  have read := Phc.parse?_write cost hs hs' ho ho'
  have again : recompute? ⟨Phc.scryptName, none, Phc.costParameters cost,
      some (Base64.encode salt), some output⟩ attempt output.length =
        some (scrypt cost (textBytes attempt) salt output.length) := by
    rw [recompute?, Phc.cost?_costParameters cost rfl]
    simp [Base64.decode_encode]
  rw [verify, read]
  dsimp only
  rw [again, beq_iff_eq, Option.some.injEq]

/-- A password verifies exactly if it derives the output of the one that the hash was made from,
whatever the cost of the hasher that checks it. -/
theorem Hasher.verify_hash (h other : Hasher) (salt : Salt) (password attempt : String) :
    other.verify (h.hash salt password) attempt = true ↔
      scrypt h.cost (textBytes attempt) salt.toList outputLength =
        scrypt h.cost (textBytes password) salt.toList outputLength := by
  have length := length_scrypt h.cost (textBytes password) salt.toList outputLength
  have size : salt.toList.length = 16 := by simp
  have checked := other.verify_write h.cost (by omega : 3 ≤ salt.toList.length) (by omega)
    (by rw [length]; decide :
      10 ≤ (scrypt h.cost (textBytes password) salt.toList outputLength).length)
    (by rw [length]; decide) attempt
  rw [length] at checked
  exact checked

theorem Hasher.parse?_hash (h : Hasher) (salt : Salt) (password : String) :
    Phc.parse? (h.hash salt password) = some ⟨Phc.scryptName, none, Phc.costParameters h.cost,
      some (Base64.encode salt.toList),
      some (scrypt h.cost (textBytes password) salt.toList outputLength)⟩ := by
  have length := length_scrypt h.cost (textBytes password) salt.toList outputLength
  have size : salt.toList.length = 16 := by simp
  exact Phc.parse?_write h.cost (by omega) (by omega) (by rw [length]; decide)
    (by rw [length]; decide)

/-- The numbers of a cost are those that it was asked for with. -/
theorem Cost.of?_eq_some {logN r p : Nat} {cost : Cost} (h : Cost.of? logN r p = some cost) :
    cost.logN = logN ∧ cost.r = r ∧ cost.p = p := by
  rw [Cost.of?] at h
  split at h
  · cases h
    exact ⟨rfl, rfl, rfl⟩
  · cases h

/-- What the text of a hash is to be read as: scrypt without a version, with these numbers and no
others, this salt and 32 bytes. -/
structure Phc.Describes (stored : Phc) (logN r p : Nat) (salt : Salt) : Prop where
  algorithm : stored.algorithm = ['s', 'c', 'r', 'y', 'p', 't']
  version : stored.version = none
  parameters : stored.parameters =
    [(['l', 'n'], decimal logN), (['r'], decimal r), (['p'], decimal p)]
  numbers : stored.parameters.foldlM Numbers.assign Numbers.standard = some ⟨logN, r, p⟩
  cost : stored.cost? = Cost.of? logN r p
  salt : stored.salt.bind Base64.decode = some salt.toList
  output : ∃ output, stored.output = some output ∧ output.length = 32

/-- Hashing breaks off only where the memory cannot be had. -/
theorem Hasher.hash?_eq_some {h : Hasher} {granted : Nat} {salt : Salt} {password text : String} :
    h.hash? granted salt password = some text ↔
      h.cost.fits granted = true ∧ h.hash salt password = text := by
  rw [hash?]
  split
  · rename_i fits
    simp [fits]
  · rename_i short
    simp [short]

theorem Cost.fits_iff (c : Cost) (granted : Nat) :
    c.fits granted = true ↔ c.memory ≤ granted ∧ c.memory ≤ largestAllocation := by
  rw [fits, Bool.and_eq_true, decide_eq_true_iff, decide_eq_true_iff]

/-- A hash is checked at the cost at which it was made. -/
theorem Hasher.checkedCost?_hash (h : Hasher) (salt : Salt) (password : String) :
    checkedCost? (h.hash salt password) = some h.cost := by
  rw [checkedCost?, h.parse?_hash salt password]
  simp only [Option.bind_eq_bind, Option.bind_some, ne_eq, not_true_eq_false, Option.isSome_none,
    Option.isNone_some, Bool.false_eq_true, or_self, if_false, Base64.decode_encode]
  exact Phc.cost?_costParameters h.cost rfl

/-- Hashing gives a text exactly where the memory can be had that scrypt takes at the cost. A text
that it gives reads back as what it was made of, whatever the cost, salt and password, and every
hasher there is accepts the password for it: a new cost shuts nobody out. -/
theorem Hasher.hash_outlives_cost {logN r p : Nat} {cost : Cost}
    (made : Cost.of? logN r p = some cost) (other : Hasher) (granted : Nat) (salt : Salt)
    (password : String) :
    ((∃ text, Hasher.hash? ⟨cost⟩ granted salt password = some text) ↔
        128 * r * max p (Nat.pow 2 logN) ≤ granted ∧
          128 * r * max p (Nat.pow 2 logN) ≤ largestAllocation) ∧
      ∀ text, Hasher.hash? ⟨cost⟩ granted salt password = some text →
        (∃ stored, Phc.parse? text = some stored ∧ stored.Describes logN r p salt) ∧
          other.verify? granted text password = some true := by
  obtain ⟨rfl, rfl, rfl⟩ := Cost.of?_eq_some made
  constructor
  · constructor
    · rintro ⟨text, hashed⟩
      exact (cost.fits_iff granted).mp (hash?_eq_some.mp hashed).1
    · intro room
      exact ⟨_, hash?_eq_some.mpr ⟨(cost.fits_iff granted).mpr room, rfl⟩⟩
  · intro text hashed
    obtain ⟨fits, rfl⟩ := hash?_eq_some.mp hashed
    constructor
    · refine ⟨_, Hasher.parse?_hash ⟨cost⟩ salt password, rfl, rfl, rfl, ?_, ?_, ?_, _, rfl, ?_⟩
      · exact Phc.foldlM_costParameters cost
      · exact (Phc.cost?_costParameters cost rfl).trans made.symm
      · exact Base64.decode_encode salt.toList
      · exact length_scrypt ..
    · have accepted := (Hasher.verify_hash ⟨cost⟩ other salt password password).mpr rfl
      rw [verify?, checkedCost?_hash ⟨cost⟩ salt password, Option.all_some, if_pos fits, accepted]

/-- At the standard cost, in exactly the memory that it takes, and checked at the lowest cost. -/
theorem Hasher.hash_outlives_cost_at_limits :
    ∃ cost lowest text, Cost.of? 17 8 1 = some cost ∧ Cost.of? 0 1 1 = some lowest ∧
      Hasher.hash? ⟨cost⟩ 134217728 (.replicate 16 7) "Lovelace#1" = some text ∧
      (∃ stored, Phc.parse? text = some stored ∧ stored.Describes 17 8 1 (.replicate 16 7)) ∧
      Hasher.verify? ⟨lowest⟩ 134217728 text "Lovelace#1" = some true := by
  have made : Cost.of? 17 8 1 = some ⟨17, 8, 1, by decide⟩ := rfl
  have lowest : Cost.of? 0 1 1 = some ⟨0, 1, 1, by decide⟩ := rfl
  obtain ⟨given, outlives⟩ :=
    Hasher.hash_outlives_cost made ⟨⟨0, 1, 1, by decide⟩⟩ 134217728 (.replicate 16 7) "Lovelace#1"
  obtain ⟨text, hashed⟩ := given.mpr (by decide)
  exact ⟨_, _, text, made, lowest, hashed, outlives text hashed⟩

/-- A cost that is accepted, at which nothing can be hashed however much memory there is: its blocks
take one byte more than an allocation has at the most. -/
theorem Hasher.nothing_hashed_at_cost : ∃ cost, Cost.of? 54 4 1 = some cost ∧
    cost.memory = largestAllocation + 1 ∧ ∀ granted salt password,
      Hasher.hash? ⟨cost⟩ granted salt password = none := by
  refine ⟨⟨54, 4, 1, by decide⟩, rfl, by decide, fun granted salt password => ?_⟩
  have short : Cost.fits ⟨54, 4, 1, by decide⟩ granted = false := by
    rw [Bool.eq_false_iff, ne_eq, Cost.fits_iff]
    rintro ⟨_, room⟩
    revert room
    decide
  rw [hash?, short]
  rfl

/-- Equal block keys derive equal outputs. -/
theorem scrypt_congr {k k' : List UInt8} (same : blockKey k = blockKey k') (cost : Cost)
    (salt : List UInt8) (length : Nat) :
    scrypt cost k salt length = scrypt cost k' salt length := by
  have keyed : hmac k = hmac k' := by
    funext message
    rw [hmac, hmac, same]
  have derived : deriveKey k = deriveKey k' := by
    funext salt length
    rw [deriveKey, deriveKey, keyed]
  rw [scrypt, scrypt, derived]

theorem blockKey_of_short {key : List UInt8} (h : key.length ≤ 64) :
    blockKey key = key ++ List.replicate (64 - key.length) 0 := by
  rw [blockKey, if_neg (Nat.not_lt.mpr h)]

/-- One text is the other with NUL characters behind it. -/
def PaddedAlike (s t : String) : Prop :=
  ∃ n, t.toList = s.toList ++ List.replicate n '\x00' ∨
    s.toList = t.toList ++ List.replicate n '\x00'

theorem PaddedAlike.symm {s t : String} (h : PaddedAlike s t) : PaddedAlike t s := by
  obtain ⟨n, h⟩ := h
  exact ⟨n, h.symm⟩

/-- A NUL character is a zero byte. -/
theorem textBytes_padded {s t : String} {n : Nat}
    (h : t.toList = s.toList ++ List.replicate n '\x00') :
    textBytes t = textBytes s ++ List.replicate n 0 := by
  have byte : String.utf8EncodeChar '\x00' = [0] := by decide
  have zeros : ∀ k, (List.replicate k '\x00').flatMap String.utf8EncodeChar =
      List.replicate k 0 := by
    intro k
    induction k with
    | zero => rfl
    | succ k ih =>
      rw [List.replicate_succ, List.flatMap_cons, ih, byte]
      rfl
  rw [textBytes, h, List.flatMap_append, zeros]
  rfl

/-- If the bytes of one text are those of the other and some zeros, so are the characters. -/
theorem padded_of_textBytes {s t : String} {n : Nat}
    (h : textBytes t = textBytes s ++ List.replicate n 0) :
    t.toList = s.toList ++ List.replicate n '\x00' := by
  have whole : (String.ofList (s.toList ++ List.replicate n '\x00')).toList =
      s.toList ++ List.replicate n '\x00' := String.toList_ofList
  have bytes := textBytes_padded whole
  rw [← h] at bytes
  rw [← textBytes_injective bytes, whole]

theorem paddedAlike_of_blockKey {s t : String} (hs : (textBytes s).length ≤ 64)
    (ht : (textBytes t).length ≤ 64) (le : (textBytes s).length ≤ (textBytes t).length)
    (same : blockKey (textBytes s) = blockKey (textBytes t)) : PaddedAlike s t := by
  rw [blockKey_of_short hs, blockKey_of_short ht] at same
  have front := congrArg (List.take (textBytes t).length) same
  rw [List.take_left, List.take_append, List.take_of_length_le le, List.take_replicate] at front
  exact ⟨_, Or.inl (padded_of_textBytes front.symm)⟩

/-- Passwords of up to 64 bytes have one key exactly if they differ by NUL characters at the end. -/
theorem blockKey_eq_iff {s t : String} (hs : (textBytes s).length ≤ 64)
    (ht : (textBytes t).length ≤ 64) :
    blockKey (textBytes s) = blockKey (textBytes t) ↔ PaddedAlike s t := by
  constructor
  · intro same
    rcases Nat.le_total (textBytes s).length (textBytes t).length with le | le
    · exact paddedAlike_of_blockKey hs ht le same
    · exact (paddedAlike_of_blockKey ht hs le same.symm).symm
  · have forward {s t : String} (hs : (textBytes s).length ≤ 64) (ht : (textBytes t).length ≤ 64)
        {n : Nat} (h : t.toList = s.toList ++ List.replicate n '\x00') :
        blockKey (textBytes s) = blockKey (textBytes t) := by
      have bytes := textBytes_padded h
      have length := congrArg List.length bytes
      rw [List.length_append, List.length_replicate] at length
      rw [blockKey_of_short hs, blockKey_of_short ht, bytes, List.append_assoc,
        List.replicate_append_replicate, List.length_append, List.length_replicate]
      congr 2
      omega
    rintro ⟨n, h | h⟩
    · exact forward hs ht h
    · exact (forward ht hs h).symm

end MemberAuth.Hash
