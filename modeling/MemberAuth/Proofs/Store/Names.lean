import MemberAuth.Proofs.Member.Grammar
import MemberAuth.Proofs.Store.Sites

/-!
# The names of the files

A name stands for an entry of its folder if it has no separator in it, is none of the names for the
folder itself and the one above, and is short enough. The names that are made of login ids, of keys
of addresses and of drawn identifiers are all of that kind. So a path, once written out with
separators, still tells which names it was made of.
-/
namespace MemberAuth

open Text

/-- A name that a folder can have an entry under. -/
structure IsName (name : String) : Prop where
  whole : '/' ∉ name.toList ∧ Char.ofNat 0 ∉ name.toList
  proper : name ≠ "" ∧ name ≠ "." ∧ name ≠ ".."
  short : name.utf8ByteSize ≤ 255

/-- The path is that of an entry of the folder, with nothing between them. -/
def DirectlyIn (folder path : Path) : Prop :=
  ∃ name, IsName name ∧ path = folder ++ [name]

/-- A path as it is written, with separators between the names. -/
def written (path : Path) : String :=
  "/".intercalate path

/-- Nothing is lost in writing out a path. -/
theorem written_inj {p q : Path} (hp : ∀ name ∈ p, '/' ∉ name.toList)
    (hq : ∀ name ∈ q, '/' ∉ name.toList) (named : p ≠ []) (also : q ≠ [])
    (same : written p = written q) : p = q := by
  have parted (l : Path) (hl : ∀ name ∈ l, '/' ∉ name.toList) (some : l ≠ []) :
      ((written l).split '/').toList.map (·.copy) = l := by
    have split := String.toList_split_intercalate hl
    rwa [if_neg some] at split
  rw [← parted p hp named, ← parted q hq also, same]

namespace DirectlyIn

variable {folder other p q : Path}

theorem names (h : DirectlyIn folder p) (plain : ∀ name ∈ folder, '/' ∉ name.toList) :
    p ≠ [] ∧ ∀ name ∈ p, '/' ∉ name.toList := by
  obtain ⟨name, proper, rfl⟩ := h
  refine ⟨by simp, fun part there => ?_⟩
  rcases List.mem_append.mp there with above | last
  · exact plain part above
  · rw [List.mem_singleton.mp last]
    exact proper.whole.1

theorem written_eq_iff (hp : DirectlyIn folder p) (hq : DirectlyIn other q)
    (plain : ∀ name ∈ folder, '/' ∉ name.toList) (also : ∀ name ∈ other, '/' ∉ name.toList) :
    written p = written q ↔ p = q := by
  obtain ⟨named, parts⟩ := hp.names plain
  obtain ⟨named', parts'⟩ := hq.names also
  constructor
  · exact written_inj parts parts' named named'
  · rintro rfl
    rfl

end DirectlyIn

/-- The characters that the store makes names of. -/
def isNameChar (c : Char) : Bool :=
  isAsciiAlphanumeric c || c ∈ ['.', '_', '%', '+', '-', '@']

theorem isAscii_of_isNameChar {c : Char} (h : isNameChar c = true) : isAscii c = true := by
  rw [isNameChar, Bool.or_eq_true, decide_eq_true_eq] at h
  rcases h with letter | sign
  · exact isAscii_of_isAsciiAlphanumeric letter
  · have each : ['.', '_', '%', '+', '-', '@'].all isAscii = true := by decide
    exact List.all_eq_true.mp each c sign

/-- A name of such characters that are not all dots. -/
theorem IsName.of_chars {name : String} (plain : ∀ c ∈ name.toList, isNameChar c = true)
    (marked : ∃ c ∈ name.toList, c ≠ '.') (short : name.length ≤ 255) : IsName name := by
  obtain ⟨c, there, other⟩ := marked
  refine ⟨⟨?slash, ?null⟩, ⟨?_, ?_, ?_⟩, ?_⟩
  case slash =>
    intro slash
    exact absurd (plain '/' slash) (by decide)
  case null =>
    intro null
    exact absurd (plain _ null) (by decide)
  · rintro rfl
    simp at there
  · rintro rfl
    simp [other] at there
  · rintro rfl
    simp [other] at there
  · rw [utf8ByteSize_of_ascii fun c hc => isAscii_of_isNameChar (plain c hc)]
    exact short

namespace LoginId

theorem isNameChar_of_mem {s : String} (valid : check s = .ok ()) {c : Char} (h : c ∈ s.toList) :
    isNameChar c = true := by
  rw [isNameChar, (check_eq_ok.mp valid).2.2 c h, Bool.true_or]

end LoginId

namespace Email

theorem Spelled.isNameChar_of_mem {address name host top : String}
    (h : Spelled address name host top) {c : Char} (there : c ∈ address.toList) :
    isNameChar c = true := by
  have wider : ['.', '_', '%', '+', '-'] ⊆ ['.', '_', '%', '+', '-', '@'] := by decide
  have also : ['.', '-'] ⊆ ['.', '_', '%', '+', '-', '@'] := by decide
  rw [isNameChar, Bool.or_eq_true, decide_eq_true_eq, ← isAlphanum_iff]
  rw [h.whole] at there
  simp only [String.toList_append, List.mem_append] at there
  rcases there with (((inName | sign) | inHost) | dot) | inTop
  · rcases h.named.2 c inName with letter | sign
    · exact Or.inl letter
    · exact Or.inr (wider sign)
  · right
    have sign : c = '@' := by simpa using sign
    simp [sign]
  · rcases h.hosted.2 c inHost with letter | sign
    · exact Or.inl letter
    · exact Or.inr (also sign)
  · right
    have dot : c = '.' := by simpa using dot
    simp [dot]
  · left
    rw [Char.isAlphanum, h.topped.2 c inTop, Bool.true_or]

theorem Spelled.at_mem {address name host top : String} (h : Spelled address name host top) :
    '@' ∈ address.toList := by
  rw [← List.count_pos_iff, h.count_at]
  exact Nat.one_pos

/-- The key of an address is the same address but for case. -/
theorem sameButCase_key (e : Email) : SameButCase e.text e.key := by
  have twice (c : Char) : asciiLower (asciiLower c) = asciiLower c :=
    apply_asciiLower (by decide) c
  rw [sameButCase_iff, key, String.toList_ofList, List.map_map]
  exact List.map_congr_left fun c _ => (twice c).symm

theorem key_eq_iff {a b : Email} : a.key = b.key ↔ SameButCase a.text b.text := by
  rw [sameButCase_iff, key, key, String.ofList_inj]

/-- A key is an address as well. -/
theorem check_key (e : Email) : check e.key = .ok () := by
  rw [← check_of_sameButCase e.sameButCase_key]
  exact e.valid

end Email

namespace Store

/-- An identifier: five groups of hexadecimal digits with hyphens between them. -/
def IsIdentifier (text : String) : Prop :=
  ∃ groups : List (List Char), groups.map List.length = [8, 4, 4, 4, 12] ∧
    (∀ g ∈ groups, ∀ c ∈ g, (hexValue? c).isSome = true) ∧
    text.toList = ['-'].intercalate groups

/-- A path for a file that is written aside. -/
def IsTemporary (p : Path) : Prop :=
  ∃ identifier, IsIdentifier identifier ∧ p = membersFolder ++ ["." ++ identifier ++ ".tmp"]

theorem isNameChar_of_hexValue {c : Char} (h : (hexValue? c).isSome = true) :
    isNameChar c = true := by
  have letter : isAsciiAlphanumeric c = true := by
    simp only [isAsciiAlphanumeric, isAsciiLetter, isDigit, Bool.or_eq_true, Bool.and_eq_true,
      decide_eq_true_eq]
    rw [hexValue?] at h
    split at h
    · rename_i digit
      right
      simpa using digit
    split at h
    · rename_i small
      have between : 'a' ≤ c ∧ c ≤ 'f' := by simpa using small
      exact Or.inl (Or.inl ⟨between.1, Char.le_trans between.2 (by decide)⟩)
    split at h
    · rename_i capital
      have between : 'A' ≤ c ∧ c ≤ 'F' := by simpa using capital
      exact Or.inl (Or.inr ⟨between.1, Char.le_trans between.2 (by decide)⟩)
    · cases h
  rw [isNameChar, letter, Bool.true_or]

theorem hexValue_of_mem_toDigits (n : Nat) :
    ∀ c ∈ Nat.toDigits 16 n, (hexValue? c).isSome = true := by
  have digit : ∀ m < 16, (hexValue? (Nat.digitChar m)).isSome = true := by decide
  induction n using Nat.strongRecOn with
  | ind n ih =>
    intro c there
    rw [Nat.toDigits_eq_if (by decide)] at there
    split at there
    · rename_i small
      rw [List.mem_singleton.mp there]
      exact digit n small
    · rcases List.mem_append.mp there with front | last
      · exact ih (n / 16) (by omega) c front
      · rw [List.mem_singleton.mp last]
        exact digit (n % 16) (by omega)

theorem documentPath_directlyIn {loginId : String} (valid : LoginId.check loginId = .ok ()) :
    DirectlyIn membersFolder (documentPath loginId) := by
  obtain ⟨_, short, _⟩ := LoginId.check_eq_ok.mp valid
  refine ⟨loginId ++ ".json", IsName.of_chars ?_ ⟨'j', ?_, by decide⟩ ?_, rfl⟩
  · intro c there
    rw [String.toList_append, List.mem_append] at there
    rcases there with own | ending
    · exact LoginId.isNameChar_of_mem valid own
    · have each : ".json".toList.all isNameChar = true := by decide
      exact List.all_eq_true.mp each c ending
  · simp
  · rw [String.length_append]
    have ending : ".json".length = 5 := by decide
    omega

theorem reservationPath_directlyIn (e : Email) : DirectlyIn emailFolder (reservationPath e) := by
  obtain ⟨short, name, host, top, spelled⟩ := Email.check_eq_ok.mp e.check_key
  have plain : ∀ c ∈ e.key.toList, isNameChar c = true := fun c => spelled.isNameChar_of_mem
  refine ⟨e.key, IsName.of_chars plain ⟨'@', spelled.at_mem, by decide⟩ ?_, rfl⟩
  rw [utf8ByteSize_of_ascii fun c hc => isAscii_of_isNameChar (plain c hc)] at short
  omega

theorem mem_intercalate_singleton {x c : Char} {groups : List (List Char)}
    (h : c ∈ [x].intercalate groups) : c = x ∨ ∃ g ∈ groups, c ∈ g := by
  induction groups with
  | nil => simp at h
  | cons g rest ih =>
    cases rest with
    | nil =>
      right
      simpa using h
    | cons next rest =>
      rw [List.intercalate_cons_cons, List.mem_append, List.mem_append, List.mem_singleton] at h
      rcases h with (own | between) | later
      · exact Or.inr ⟨g, List.mem_cons_self, own⟩
      · exact Or.inl between
      · rcases ih later with same | ⟨other, there, inside⟩
        · exact Or.inl same
        · exact Or.inr ⟨other, List.mem_cons_of_mem g there, inside⟩

namespace IsIdentifier

variable {text : String}

theorem length_eq (h : IsIdentifier text) : text.length = 36 := by
  obtain ⟨groups, lengths, _, spelled⟩ := h
  simp only [List.map_eq_cons_iff, List.map_eq_nil_iff] at lengths
  obtain ⟨a, _, rfl, ha, b, _, rfl, hb, c, _, rfl, hc, d, _, rfl, hd, e, _, rfl, he, rfl⟩ := lengths
  rw [← String.length_toList, spelled]
  simp [List.intercalate, ha, hb, hc, hd, he]

theorem isNameChar_of_mem (h : IsIdentifier text) {c : Char} (there : c ∈ text.toList) :
    isNameChar c = true := by
  obtain ⟨groups, _, digits, spelled⟩ := h
  rw [spelled] at there
  rcases mem_intercalate_singleton there with rfl | ⟨g, drawn, inside⟩
  · decide
  · exact isNameChar_of_hexValue (digits g drawn c inside)

end IsIdentifier

/-- The folder of the reservations is one of the entries itself. -/
theorem emailFolder_directlyIn : DirectlyIn membersFolder emailFolder := by
  have each : "by-email".toList.all isNameChar = true := by decide
  exact ⟨"by-email", IsName.of_chars (List.all_eq_true.mp each) ⟨'b', by decide, by decide⟩
    (by decide), rfl⟩

theorem IsTemporary.directlyIn {p : Path} (h : IsTemporary p) : DirectlyIn membersFolder p := by
  obtain ⟨identifier, drawn, rfl⟩ := h
  have dot : ".".length = 1 := by decide
  have ending : ".tmp".length = 4 := by decide
  refine ⟨_, IsName.of_chars ?_ ⟨'t', ?_, by decide⟩ ?_, rfl⟩
  · intro c there
    rw [String.toList_append, String.toList_append, List.mem_append, List.mem_append] at there
    rcases there with (start | inside) | last
    · have each : ".".toList.all isNameChar = true := by decide
      exact List.all_eq_true.mp each c start
    · exact drawn.isNameChar_of_mem inside
    · have each : ".tmp".toList.all isNameChar = true := by decide
      exact List.all_eq_true.mp each c last
  · simp
  · rw [String.length_append, String.length_append, drawn.length_eq]
    omega

/-- The paths that a disk hands out are of that kind while their numbers fit in the last group. -/
theorem isTemporary_temporaryPath {n : Nat} (fits : n < 16 ^ 12) :
    IsTemporary (temporaryPath n) := by
  have short : (Nat.toDigits 16 n).length ≤ 12 :=
    (Nat.length_toDigits_le_iff (by decide) (by decide)).mpr fits
  have padded : ∀ c ∈ (Nat.toDigits 16 n).leftpad 12 '0', (hexValue? c).isSome = true := by
    intro c there
    rcases List.mem_append.mp there with zero | digit
    · rw [List.eq_of_mem_replicate zero]
      decide
    · exact hexValue_of_mem_toDigits n c digit
  have fixed : ([['0', '0', '0', '0', '0', '0', '0', '0'], ['0', '0', '0', '0'],
      ['4', '0', '0', '0'], ['8', '0', '0', '0']].all fun g => g.all fun c =>
        (hexValue? c).isSome) = true := by decide
  refine ⟨"00000000-0000-4000-8000-" ++ String.ofList ((Nat.toDigits 16 n).leftpad 12 '0'),
    ⟨[['0', '0', '0', '0', '0', '0', '0', '0'], ['0', '0', '0', '0'], ['4', '0', '0', '0'],
      ['8', '0', '0', '0']] ++ [(Nat.toDigits 16 n).leftpad 12 '0'], ?_, ?_, ?_⟩, ?_⟩
  · simp
    omega
  · intro g drawn
    rcases List.mem_append.mp drawn with front | last
    · exact List.all_eq_true.mp (List.all_eq_true.mp fixed g front)
    · rw [List.mem_singleton.mp last]
      exact padded
  · simp [List.intercalate]
  · have start : ".00000000-0000-4000-8000-" = "." ++ "00000000-0000-4000-8000-" := by decide
    rw [temporaryPath, start]
    simp only [String.append_assoc]

end Store

end MemberAuth
