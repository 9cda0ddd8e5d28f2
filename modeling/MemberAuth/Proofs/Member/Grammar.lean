import MemberAuth.Proofs.Member.Fields
import MemberAuth.Proofs.Service.Checks
import MemberAuth.Proofs.Text.Case

/-!
# How login ids and addresses are spelled

The check of an address looks for its first at sign and its last dot. What it accepts is exactly
what is put together from a name, an at sign, a host, a dot and a top-level part, although the host
may have dots and letters of its own: a top-level part has no dot, so the dot before it is the last
one. Neither this check nor that of login ids tells capital letters from small ones.
-/
namespace MemberAuth

open Text

namespace Email

/-- An address is spelled as a name, an at sign, a host, a dot and a top-level part. -/
structure Spelled (address name host top : String) : Prop where
  whole : address = name ++ "@" ++ host ++ "." ++ top
  named : name ≠ "" ∧ ∀ c ∈ name.toList, c.isAlphanum = true ∨ c ∈ ['.', '_', '%', '+', '-']
  hosted : host ≠ "" ∧ ∀ c ∈ host.toList, c.isAlphanum = true ∨ c ∈ ['.', '-']
  topped : 2 ≤ top.length ∧ ∀ c ∈ top.toList, c.isAlpha = true

end Email

section Characters

theorem isAlpha_iff {c : Char} : c.isAlpha = true ↔ isAsciiLetter c = true := by
  have upper : c.isUpper = decide (c.val ≥ 'A'.val ∧ c.val ≤ 'Z'.val) := rfl
  have lower : c.isLower = (decide (c.val ≥ 'a'.val) && decide (c.val ≤ 'z'.val)) := rfl
  have either : c.isAlpha = (c.isUpper || c.isLower) := rfl
  rw [isAsciiLetter_iff, either, upper, lower]
  simp only [Bool.or_eq_true, Bool.and_eq_true, decide_eq_true_eq, ge_iff_le,
    UInt32.le_iff_toNat_le]
  exact or_comm

theorem isAlphanum_iff {c : Char} : c.isAlphanum = true ↔ isAsciiAlphanumeric c = true := by
  have digit : c.isDigit = true ↔ isDigit c = true := Iff.rfl
  rw [Char.isAlphanum, isAsciiAlphanumeric, Bool.or_eq_true, Bool.or_eq_true, isAlpha_iff, digit]

theorem isLocalChar_iff {c : Char} :
    Email.isLocalChar c = true ↔ c.isAlphanum = true ∨ c ∈ ['.', '_', '%', '+', '-'] := by
  simp only [Email.isLocalChar, isAlphanum_iff, Bool.or_eq_true, beq_iff_eq, List.mem_cons,
    List.not_mem_nil, or_false, or_assoc]

theorem isDomainChar_iff {c : Char} :
    Email.isDomainChar c = true ↔ c.isAlphanum = true ∨ c ∈ ['.', '-'] := by
  simp only [Email.isDomainChar, isAlphanum_iff, Bool.or_eq_true, beq_iff_eq, List.mem_cons,
    List.not_mem_nil, or_false, or_assoc]

end Characters

/-- Cutting a list before a character finds the first place where it stands. -/
theorem cut_eq_iff {x : Char} {cs before after : List Char} :
    cs.takeWhile (· != x) = before ∧ cs.dropWhile (· != x) = x :: after ↔
      cs = before ++ x :: after ∧ x ∉ before := by
  constructor
  · rintro ⟨rfl, rest⟩
    refine ⟨?_, ?_⟩
    · rw [← rest, List.takeWhile_append_dropWhile]
    · intro there
      have other := List.all_eq_true.mp (List.all_takeWhile (l := cs)) x there
      simp at other
  · rintro ⟨rfl, absent⟩
    have others : ∀ c ∈ before, (c != x) = true := by
      intro c there
      have other : c ≠ x := by
        rintro rfl
        exact absent there
      exact bne_iff_ne.mpr other
    rw [List.takeWhile_append_of_pos others, List.dropWhile_append_of_pos others]
    simp

/-- What is left after cutting before a character begins with it, if anything is left. -/
theorem head_of_cut {x d : Char} {cs after : List Char}
    (rest : cs.dropWhile (· != x) = d :: after) : d = x := by
  have stop := List.head?_dropWhile_not (· != x) cs
  rw [rest] at stop
  simpa using stop

namespace Email

/-- The characters of a domain: those of the host, a dot and at least two letters. -/
theorem isDomain_iff {cs : List Char} :
    isDomain cs = true ↔ ∃ host top, cs = host ++ '.' :: top ∧
      (host ≠ [] ∧ ∀ c ∈ host, isDomainChar c = true) ∧
      2 ≤ top.length ∧ ∀ c ∈ top, isAsciiLetter c = true := by
  simp only [isDomain, Bool.and_eq_true, decide_eq_true_eq, List.all_eq_true]
  constructor
  · rintro ⟨⟨⟨long, letters⟩, more⟩, hostly⟩
    generalize rest : cs.reverse.dropWhile (· != '.') = back at more hostly
    cases back with
    | nil => simp at more
    | cons d back =>
      obtain rfl := head_of_cut rest
      obtain ⟨split, _⟩ := cut_eq_iff.mp ⟨rfl, rest⟩
      refine ⟨back.reverse, (cs.reverse.takeWhile (· != '.')).reverse, ?_, ⟨?_, ?_⟩, ?_, ?_⟩
      · have forward := congrArg List.reverse split
        simpa using forward
      · intro none
        rw [List.reverse_eq_nil_iff.mp none] at more
        simp at more
      · intro c there
        exact hostly c (List.mem_cons_of_mem _ (List.mem_reverse.mp there))
      · rwa [List.length_reverse]
      · intro c there
        exact letters c (List.mem_reverse.mp there)
  · rintro ⟨host, top, rfl, ⟨present, hostly⟩, long, letters⟩
    have dotless : '.' ∉ top.reverse := by
      intro there
      exact absurd (letters '.' (List.mem_reverse.mp there)) (by decide)
    have backward : (host ++ '.' :: top).reverse = top.reverse ++ '.' :: host.reverse := by simp
    obtain ⟨taken, rest⟩ := cut_eq_iff.mpr ⟨backward, dotless⟩
    rw [taken, rest]
    refine ⟨⟨⟨?_, ?_⟩, ?_⟩, ?_⟩
    · rwa [List.length_reverse]
    · intro c there
      exact letters c (List.mem_reverse.mp there)
    · have := List.length_pos_iff.mpr present
      rw [List.length_cons, List.length_reverse]
      omega
    · intro c there
      rcases List.mem_cons.mp there with rfl | there
      · decide
      · exact hostly c (List.mem_reverse.mp there)

theorem isAddress_iff {cs : List Char} :
    isAddress cs = true ↔ ∃ name domain, cs = name ++ '@' :: domain ∧
      (name ≠ [] ∧ ∀ c ∈ name, isLocalChar c = true) ∧ isDomain domain = true := by
  rw [isAddress]
  constructor
  · intro accepted
    split at accepted
    · cases accepted
    · rename_i d domain rest
      obtain rfl := head_of_cut rest
      obtain ⟨split, _⟩ := cut_eq_iff.mp ⟨rfl, rest⟩
      simp only [Bool.and_eq_true, Bool.not_eq_true', List.isEmpty_eq_false_iff,
        List.all_eq_true] at accepted
      exact ⟨_, domain, split, accepted.1, accepted.2⟩
  · rintro ⟨name, domain, rfl, ⟨present, plain⟩, tail⟩
    have signless : '@' ∉ name := by
      intro there
      exact absurd (plain '@' there) (by decide)
    obtain ⟨taken, rest⟩ := cut_eq_iff.mpr ⟨rfl, signless⟩
    rw [taken, rest]
    simpa [tail, present] using plain

/-- Where the check of an address finds nothing wrong, the address can be spelled. -/
theorem isAddress_iff_spelled {s : String} :
    isAddress s.toList = true ↔ ∃ name host top, Spelled s name host top := by
  rw [isAddress_iff]
  constructor
  · rintro ⟨name, domain, whole, ⟨present, plain⟩, tail⟩
    obtain ⟨host, top, rfl, ⟨hosted, hostly⟩, long, letters⟩ := isDomain_iff.mp tail
    refine ⟨String.ofList name, String.ofList host, String.ofList top,
      ?_, ⟨?_, ?_⟩, ⟨?_, ?_⟩, ?_, ?_⟩
    · rw [← String.toList_inj, whole]
      simp
    · simpa using present
    · intro c there
      exact isLocalChar_iff.mp (plain c (by simpa using there))
    · simpa using hosted
    · intro c there
      exact isDomainChar_iff.mp (hostly c (by simpa using there))
    · simpa using long
    · intro c there
      exact isAlpha_iff.mpr (letters c (by simpa using there))
  · rintro ⟨name, host, top, whole, ⟨present, plain⟩, ⟨hosted, hostly⟩, long, letters⟩
    refine ⟨name.toList, host.toList ++ '.' :: top.toList, ?_, ⟨?_, ?_⟩, ?_⟩
    · rw [whole]
      simp
    · simpa using present
    · intro c there
      exact isLocalChar_iff.mpr (plain c there)
    · refine isDomain_iff.mpr ⟨_, _, rfl, ⟨?_, ?_⟩, ?_, ?_⟩
      · simpa using hosted
      · intro c there
        exact isDomainChar_iff.mpr (hostly c there)
      · rwa [String.length_toList]
      · intro c there
        exact isAlpha_iff.mp (letters c there)

theorem check_eq_ok {s : String} :
    check s = .ok () ↔ s.utf8ByteSize ≤ 254 ∧ ∃ name host top, Spelled s name host top := by
  rw [check, ← isAddress_iff_spelled, maxLength]
  split
  · rename_i empty
    have none : s.toList = [] := by simpa using empty
    simp [none, isAddress]
  split
  · rename_i long
    simp [Nat.not_le_of_lt long]
  rename_i short
  split
  · rename_i refused
    have refused : isAddress s.toList = false := by simpa using refused
    simp [refused]
  · rename_i accepted
    have accepted : isAddress s.toList = true := by simpa using accepted
    simp [accepted, Nat.le_of_not_lt short]

namespace Spelled

variable {address name host top : String}

/-- Only the one at sign is not of one of the parts. -/
theorem count_at (h : Spelled address name host top) : address.toList.count '@' = 1 := by
  have nowhere {part : List Char} {allowed : Char → Bool} (plain : ∀ c ∈ part, allowed c = true)
      (refused : allowed '@' = false) : part.count '@' = 0 := by
    rw [List.count_eq_zero]
    intro there
    rw [plain '@' there] at refused
    cases refused
  have inName := nowhere (fun c there => isLocalChar_iff.mpr (h.named.2 c there)) (by decide)
  have inHost := nowhere (fun c there => isDomainChar_iff.mpr (h.hosted.2 c there)) (by decide)
  have inTop := nowhere h.topped.2 (by decide)
  rw [h.whole]
  simp [String.toList_append, List.count_append, inName, inHost, inTop]

/-- So what follows the last dot is the top-level part. -/
theorem dot_not_mem_top (h : Spelled address name host top) : '.' ∉ top.toList := by
  intro there
  exact absurd (h.topped.2 '.' there) (by decide)

theorem newline_not_mem (h : Spelled address name host top) : '\n' ∉ address.toList := by
  intro there
  rw [h.whole] at there
  simp only [String.toList_append, List.mem_append] at there
  rcases there with (((inName | sign) | inHost) | dot) | inTop
  · exact absurd (isLocalChar_iff.mpr (h.named.2 _ inName)) (by decide)
  · exact absurd sign (by decide)
  · exact absurd (isDomainChar_iff.mpr (h.hosted.2 _ inHost)) (by decide)
  · exact absurd dot (by decide)
  · exact absurd (h.topped.2 _ inTop) (by decide)

end Spelled

/-- Small letters are accepted where capital ones are. -/
theorem isDomain_map_asciiLower (cs : List Char) :
    isDomain (cs.map asciiLower) = isDomain cs := by
  have dot : (· != '.') ∘ asciiLower = (· != '.') :=
    funext (apply_asciiLower (f := (· != '.')) (by decide))
  have letter : isAsciiLetter ∘ asciiLower = isAsciiLetter :=
    funext (apply_asciiLower (by decide))
  have hostly : isDomainChar ∘ asciiLower = isDomainChar := funext (apply_asciiLower (by decide))
  simp only [isDomain, ← List.map_reverse, List.takeWhile_map, List.dropWhile_map, dot,
    List.length_map, List.all_map, letter, hostly]

theorem isAddress_map_asciiLower (cs : List Char) :
    isAddress (cs.map asciiLower) = isAddress cs := by
  have sign : (· != '@') ∘ asciiLower = (· != '@') :=
    funext (apply_asciiLower (f := (· != '@')) (by decide))
  have plain : isLocalChar ∘ asciiLower = isLocalChar := funext (apply_asciiLower (by decide))
  rw [isAddress, isAddress, List.takeWhile_map, List.dropWhile_map, sign]
  cases cs.dropWhile (· != '@') with
  | nil => rfl
  | cons d domain =>
    simp only [List.map_cons, List.all_map, plain, List.isEmpty_map, isDomain_map_asciiLower]

theorem check_of_sameButCase {s t : String} (h : SameButCase s t) : check s = check t := by
  have address : isAddress s.toList = isAddress t.toList := by
    rw [← isAddress_map_asciiLower s.toList, ← isAddress_map_asciiLower t.toList,
      sameButCase_iff.mp h]
  rw [check, check, h.isEmpty_eq, h.utf8ByteSize_eq, address]

end Email

theorem LoginId.check_of_sameButCase {s t : String} (h : SameButCase s t) :
    check s = check t := by
  have blank : allBlank s = allBlank t := h.all_eq (apply_asciiLower (by decide +kernel))
  have plain : s.toList.all isAsciiAlphanumeric = t.toList.all isAsciiAlphanumeric :=
    h.all_eq (apply_asciiLower (by decide))
  rw [check, check, blank, h.utf8ByteSize_eq, plain]

/-- A text is an address if it has no more than 254 bytes and is spelled like one, which takes
exactly one at sign and no new line and leaves the letters after the last dot for the top. It is a
login id if it consists of one to fifty letters and digits of ASCII. Either way it is kept as it
stands, and what is said of a text is said of all that are the same but for case. -/
theorem fields_accept_exactly :
    (∀ s, (∃ email, Email.parse s = .ok email ∧ email.text = s) ↔
      s.utf8ByteSize ≤ 254 ∧ ∃ name host top, Email.Spelled s name host top) ∧
    (∀ s name host top, Email.Spelled s name host top →
      s.toList.count '@' = 1 ∧ '.' ∉ top.toList ∧ '\n' ∉ s.toList) ∧
    (∀ s, (∃ loginId, LoginId.parse s = .ok loginId ∧ loginId.text = s) ↔
      1 ≤ s.length ∧ s.length ≤ 50 ∧ ∀ c ∈ s.toList, c.isAlphanum = true) ∧
    ∀ s t, SameButCase s t → Email.check s = Email.check t ∧ LoginId.check s = LoginId.check t := by
  refine ⟨?address, ?spelling, ?loginId, ?case⟩
  case address =>
    intro s
    rw [← Email.check_eq_ok]
    constructor
    · rintro ⟨email, _, rfl⟩
      exact email.valid
    · intro valid
      exact ⟨⟨s, valid⟩, Email.parse_eq_ok.mpr rfl, rfl⟩
  case spelling =>
    intro s name host top spelled
    exact ⟨spelled.count_at, spelled.dot_not_mem_top, spelled.newline_not_mem⟩
  case loginId =>
    intro s
    simp only [isAlphanum_iff]
    refine Iff.trans ?_ LoginId.check_eq_ok
    constructor
    · rintro ⟨loginId, _, rfl⟩
      exact loginId.valid
    · intro valid
      exact ⟨⟨s, valid⟩, LoginId.parse_eq_ok.mpr rfl, rfl⟩
  case case =>
    intro s t same
    exact ⟨Email.check_of_sameButCase same, LoginId.check_of_sameButCase same⟩

/-- A host with dots of its own, and the same address in capital letters. -/
theorem fields_accept_exactly_past_dots :
    Email.Spelled "a.b+c@mail.example.co.uk" "a.b+c" "mail.example.co" "uk" ∧
      "a.b+c@mail.example.co.uk".toList.count '@' = 1 ∧
      (∃ email, Email.parse "A.B+C@MAIL.Example.CO.UK" = .ok email ∧
        email.text = "A.B+C@MAIL.Example.CO.UK") ∧
      Email.check "a.b+c@mail.example.co.uk" = .ok () := by
  obtain ⟨accepted, spelling, _, alike⟩ := fields_accept_exactly
  have small : Email.Spelled "a.b+c@mail.example.co.uk" "a.b+c" "mail.example.co" "uk" :=
    ⟨by simp, by simp, by simp, by decide, by simp⟩
  have capital : Email.Spelled "A.B+C@MAIL.Example.CO.UK" "A.B+C" "MAIL.Example.CO" "UK" :=
    ⟨by simp, by simp, by simp, by decide, by simp⟩
  have read := (accepted "A.B+C@MAIL.Example.CO.UK").mpr ⟨by decide, _, _, _, capital⟩
  have same : SameButCase "a.b+c@mail.example.co.uk" "A.B+C@MAIL.Example.CO.UK" :=
    sameButCase_iff.mpr (by decide)
  refine ⟨small, (spelling _ _ _ _ small).1, read, ?_⟩
  obtain ⟨email, _, text⟩ := read
  rw [(alike _ _ same).1, ← text]
  exact email.valid

end MemberAuth
