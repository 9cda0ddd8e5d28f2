import MemberAuth.Proofs.Json.Scalar

/-!
# Written records read back

A record whose fields have different names is read back from either of its written forms: on one
line, and with one field a line. The keys are met in the order of the fields, so at each turn the
fields read so far are the first ones.
-/
namespace MemberAuth.Json

open Text

/-- Each field of a record as its name and its written value. -/
def cells : (fs : List Field) → Row fs → List (String × List Char)
  | [], _ => []
  | f :: fs, (v, row) => (f.name, writeValue f.shape v) :: cells fs row

/-- The draft after the first fields of a record are read. -/
def filled : (fs : List Field) → Row fs → Nat → Draft fs
  | [], _, _ => ()
  | _ :: fs, (_, row), 0 => (none, filled fs row 0)
  | _ :: fs, (v, row), k + 1 => (some v, filled fs row k)

theorem filled_zero (fs : List Field) (row : Row fs) : filled fs row 0 = Draft.blank fs := by
  induction fs with
  | nil => rfl
  | cons f fs ih => exact Prod.ext rfl (ih row.2)

theorem complete_filled (fs : List Field) (row : Row fs) :
    (filled fs row fs.length).complete? = some row := by
  induction fs with
  | nil => rfl
  | cons f fs ih =>
    obtain ⟨v, row⟩ := row
    rw [List.length_cons, filled, Draft.complete?]
    simp only [ih, Option.bind_eq_bind, Option.bind_some]
    rfl

theorem length_cells (fs : List Field) (row : Row fs) : (cells fs row).length = fs.length := by
  induction fs with
  | nil => rfl
  | cons f fs ih => exact congrArg (· + 1) (ih row.2)

theorem mem_cells {fs : List Field} {row : Row fs} {cell : String × List Char}
    (h : cell ∈ cells fs row) : cell.1 ∈ fs.map Field.name := by
  induction fs with
  | nil => cases h
  | cons f fs ih =>
    rcases List.mem_cons.mp h with rfl | h
    · exact List.mem_cons_self
    · exact List.mem_cons_of_mem _ (ih h)

theorem writeFields_eq (colon : List Char) (fs : List Field) (row : Row fs) :
    writeFields colon fs row =
      (cells fs row).map fun cell => writeString cell.1.toList ++ colon ++ cell.2 := by
  induction fs with
  | nil => rfl
  | cons f fs ih => exact congrArg _ (ih row.2)

theorem readValue_writeValue (s : Shape) (v : s.Value) {rest : List Char}
    (ends : EndsNumber rest) : readValue s (writeValue s v ++ rest) = .ok (v, rest) := by
  cases s with
  | int64 => exact readInt64_writeInt v ends
  | text =>
    rw [readValue, writeValue, readString_writeString]
    exact congrArg Except.ok (Prod.ext String.ofList_toList rfl)
  | date =>
    rw [readValue, writeValue, readString_writeString]
    simp only [bind, Except.bind, Calendar.parseDate_dateText]

/-- Characters that are all white space. -/
def Spaces (cs : List Char) : Prop :=
  ∀ c ∈ cs, isSpace c = true

theorem skipSpace_spaces {ws : List Char} (h : Spaces ws) (rest : List Char) :
    skipSpace (ws ++ rest) = skipSpace rest :=
  List.dropWhile_append_of_pos h

theorem readValue_spaces {ws : List Char} (h : Spaces ws) (s : Shape) (cs : List Char) :
    readValue s (ws ++ cs) = readValue s cs := by
  cases s with
  | int64 => rw [readValue, readValue, readInt64, readInt64, skipSpace_spaces h]
  | text => rw [readValue, readValue, readString, readString, skipSpace_spaces h]
  | date => rw [readValue, readValue, readString, readString, skipSpace_spaces h]

theorem readColon_cons (rest : List Char) : readColon (':' :: rest) = .ok rest := rfl

/-- Reading the next field of a record in order adds it to the draft. -/
theorem read_filled {fs : List Field} {row : Row fs} (names : (fs.map Field.name).Nodup) {k : Nat}
    {name : String} {text : List Char} (h : (cells fs row)[k]? = some (name, text))
    {ws rest : List Char} (spaces : Spaces ws) (ends : EndsNumber rest) :
    (filled fs row k).read name.toList (':' :: (ws ++ (text ++ rest))) =
      .ok (filled fs row (k + 1), rest) := by
  induction fs generalizing k with
  | nil => cases h
  | cons f fs ih =>
    obtain ⟨v, row⟩ := row
    rw [List.map_cons, List.nodup_cons] at names
    cases k with
    | zero =>
      cases h
      rw [filled, Draft.read, if_pos rfl]
      simp only [readColon_cons, bind, Except.bind, readValue_spaces spaces,
        readValue_writeValue f.shape v ends]
      rfl
    | succ k =>
      have h : (cells fs row)[k]? = some (name, text) := h
      have other : ¬f.name.toList = name.toList := by
        intro same
        refine names.1 ?_
        rw [String.toList_inj.mp same]
        exact mem_cells (List.mem_of_getElem? h)
      rw [filled, Draft.read, if_neg other, ih names.2 h]
      rfl

/-- The white space with which a record is laid out. -/
structure Layout where
  /-- Before each key. -/
  indent : List Char
  /-- After each colon. -/
  gap : List Char
  /-- Before the closing brace. -/
  last : List Char

structure Layout.Blank (l : Layout) : Prop where
  indent : Spaces l.indent
  gap : Spaces l.gap
  last : Spaces l.last

def Layout.cellText (l : Layout) (cell : String × List Char) : List Char :=
  writeString cell.1.toList ++ (':' :: (l.gap ++ cell.2))

/-- What is left of a record when some fields are read: each of the others after its comma. -/
def Layout.remainder (l : Layout) (cells : List (String × List Char)) (rest : List Char) :
    List Char :=
  cells.flatMap (fun cell => ',' :: (l.indent ++ l.cellText cell)) ++ (l.last ++ '\x7d' :: rest)

theorem endsNumber_of_head {c : Char} (digit : isDigit c = false) (point : c ≠ '.')
    (exponent : isExponentMark c = false) (rest : List Char) : EndsNumber (c :: rest) := by
  intro d hd
  cases hd
  exact ⟨digit, point, exponent⟩

theorem endsNumber_spaces {ws : List Char} (h : Spaces ws) {rest : List Char}
    (ends : EndsNumber rest) : EndsNumber (ws ++ rest) := by
  cases ws with
  | nil => exact ends
  | cons c ws =>
    have space := h c List.mem_cons_self
    simp only [isSpace, Bool.or_eq_true, beq_iff_eq] at space
    rcases space with ((rfl | rfl) | rfl) | rfl <;>
      exact endsNumber_of_head (by decide) (by decide) (by decide) _

theorem endsNumber_remainder {l : Layout} (blank : l.Blank) (cells : List (String × List Char))
    (rest : List Char) : EndsNumber (l.remainder cells rest) := by
  cases cells with
  | nil =>
    exact endsNumber_spaces blank.last
      (endsNumber_of_head (by decide) (by decide) (by decide) rest)
  | cons cell cells => exact endsNumber_of_head (by decide) (by decide) (by decide) _

theorem cellText_append (l : Layout) (name : String) (text rest : List Char) :
    l.cellText (name, text) ++ rest =
      '"' :: (name.toList.flatMap escapeChar ++ '"' :: ':' :: (l.gap ++ (text ++ rest))) := by
  simp [Layout.cellText, writeString]

theorem nextKey_spaces {ws : List Char} (h : Spaces ws) (first : Bool) (cs : List Char) :
    nextKey first (ws ++ cs) = nextKey first cs := by
  rw [nextKey, nextKey, skipSpace_spaces h]

theorem nextKey_first {l : Layout} (blank : l.Blank) (name : String) (text rest : List Char) :
    nextKey true (l.indent ++ (l.cellText (name, text) ++ rest)) =
      .ok (some name.toList, ':' :: (l.gap ++ (text ++ rest))) := by
  rw [nextKey, skipSpace_spaces blank.indent, cellText_append, skipSpace_cons (by decide)]
  change (readChars _).map (fun r => (some r.1, r.2)) = _
  rw [readChars_escaped]
  rfl

theorem nextKey_comma {l : Layout} (blank : l.Blank) (name : String) (text rest : List Char) :
    nextKey false (',' :: (l.indent ++ (l.cellText (name, text) ++ rest))) =
      .ok (some name.toList, ':' :: (l.gap ++ (text ++ rest))) := by
  have key : skipSpace (l.indent ++ (l.cellText (name, text) ++ rest)) =
      '"' :: (name.toList.flatMap escapeChar ++ '"' :: ':' :: (l.gap ++ (text ++ rest))) := by
    rw [skipSpace_spaces blank.indent, cellText_append, skipSpace_cons (by decide)]
  simp [nextKey, skipSpace_cons, isSpace, key, readChars_escaped, Except.map]

theorem nextKey_last {l : Layout} (blank : l.Blank) (first : Bool) (rest : List Char) :
    nextKey first (l.last ++ '\x7d' :: rest) = .ok (none, rest) := by
  rw [nextKey, skipSpace_spaces blank.last]
  rfl

theorem intercalate_cons (sep x : List Char) (xs : List (List Char)) :
    sep.intercalate (x :: xs) = x ++ xs.flatMap (sep ++ ·) := by
  induction xs generalizing x with
  | nil => simp [List.intercalate]
  | cons y xs ih =>
    have := ih y
    simp only [List.intercalate, List.intersperse] at this ⊢
    simp [this]

section members

variable {fs : List Field} {row : Row fs} (names : (fs.map Field.name).Nodup) {l : Layout}
  (blank : l.Blank)
include names blank

/-- The fields that are left are read in order up to the closing brace. -/
theorem readMembers_remainder {todo : List (String × List Char)} {k fuel : Nat} {rest : List Char}
    (left : (cells fs row).drop k = todo) (enough : todo.length < fuel) (within : k ≤ fs.length) :
    readMembers fuel false (filled fs row k) (l.remainder todo rest) =
      .ok (filled fs row fs.length, rest) := by
  induction todo generalizing k fuel with
  | nil =>
    obtain ⟨fuel, rfl⟩ : ∃ n, fuel = n + 1 := ⟨fuel - 1, by simp at enough; omega⟩
    have all : k = fs.length := by
      have := List.drop_eq_nil_iff.mp left
      rw [length_cells] at this
      omega
    rw [readMembers, Layout.remainder, List.flatMap_nil, List.nil_append, nextKey_last blank, all]
    rfl
  | cons cell todo ih =>
    obtain ⟨name, text⟩ := cell
    rw [List.length_cons] at enough
    obtain ⟨fuel, rfl⟩ : ∃ n, fuel = n + 1 := ⟨fuel - 1, by omega⟩
    have here : (cells fs row)[k]? = some (name, text) := by
      rw [← List.head?_drop, left]
      rfl
    have next : (cells fs row).drop (k + 1) = todo := by
      rw [← List.tail_drop, left]
      rfl
    have more : k < fs.length := by
      rw [← length_cells fs row]
      exact (List.getElem?_eq_some_iff.mp here).1
    have text_eq : l.remainder ((name, text) :: todo) rest =
        ',' :: (l.indent ++ (l.cellText (name, text) ++ l.remainder todo rest)) := by
      simp [Layout.remainder]
    rw [readMembers, text_eq, nextKey_comma blank]
    simp only [bind, Except.bind,
      read_filled names here blank.gap (endsNumber_remainder blank todo rest)]
    exact ih next (by omega) (by omega)

/-- From the opening brace on, all fields are read in order. -/
theorem readMembers_text {fuel : Nat} {rest : List Char} (enough : fs.length < fuel) :
    readMembers fuel true (Draft.blank fs) (l.indent ++ ((',' :: l.indent).intercalate
        ((cells fs row).map l.cellText) ++ (l.last ++ '\x7d' :: rest))) =
      .ok (filled fs row fs.length, rest) := by
  obtain ⟨fuel, rfl⟩ : ∃ n, fuel = n + 1 := ⟨fuel - 1, by omega⟩
  rw [← filled_zero fs row]
  cases hc : cells fs row with
  | nil =>
    have empty : (',' :: l.indent).intercalate ([].map l.cellText) = [] := rfl
    have no_field : fs.length = 0 := by rw [← length_cells fs row, hc]; rfl
    rw [readMembers, nextKey_spaces blank.indent, empty, List.nil_append, nextKey_last blank,
      no_field]
    rfl
  | cons cell todo =>
    obtain ⟨name, text⟩ := cell
    have here : (cells fs row)[0]? = some (name, text) := by rw [hc]; rfl
    have next : (cells fs row).drop 1 = todo := by rw [hc]; rfl
    have length : todo.length + 1 = fs.length := by rw [← length_cells fs row, hc]; rfl
    have text_eq : (',' :: l.indent).intercalate (((name, text) :: todo).map l.cellText) ++
        (l.last ++ '\x7d' :: rest) =
          l.cellText (name, text) ++ l.remainder todo rest := by
      rw [List.map_cons, intercalate_cons, List.flatMap_map, List.append_assoc]
      rfl
    rw [readMembers, text_eq, nextKey_first blank]
    simp only [bind, Except.bind,
      read_filled names here blank.gap (endsNumber_remainder blank todo rest)]
    exact readMembers_remainder names blank next (by omega) (by omega)

end members

/-- A record as it is laid out. -/
def Layout.text (l : Layout) (fs : List Field) (row : Row fs) : List Char :=
  '\x7b' :: (l.indent ++ ((',' :: l.indent).intercalate (writeFields (':' :: l.gap) fs row) ++
    (l.last ++ ['\x7d'])))

/-- There are at least as many characters as fields. -/
theorem length_le_body (l : Layout) (fs : List Field) (row : Row fs) :
    fs.length ≤ (l.indent ++ ((',' :: l.indent).intercalate ((cells fs row).map l.cellText) ++
      (l.last ++ ['\x7d']))).length := by
  rw [← length_cells fs row]
  cases cells fs row with
  | nil => exact Nat.zero_le _
  | cons cell todo =>
    have each : todo.length ≤ ((todo.map l.cellText).flatMap (',' :: l.indent ++ ·)).length := by
      induction todo with
      | nil => exact Nat.zero_le _
      | cons cell todo ih =>
        simp only [List.map_cons, List.flatMap_cons, List.length_append, List.length_cons] at ih ⊢
        omega
    rw [List.map_cons, intercalate_cons]
    simp only [List.length_append, List.length_cons, List.length_nil] at each ⊢
    omega

theorem readRow_text {fs : List Field} (names : (fs.map Field.name).Nodup) {l : Layout}
    (blank : l.Blank) (row : Row fs) : readRow fs (l.text fs row) = .ok (row, []) := by
  have fields : writeFields (':' :: l.gap) fs row = (cells fs row).map l.cellText := by
    rw [writeFields_eq]
    exact List.map_congr_left fun cell _ => by simp [Layout.cellText]
  have start : skipSpace (l.text fs row) = l.text fs row := skipSpace_cons (by decide) _
  have enough := Nat.lt_succ_of_le (length_le_body l fs row)
  rw [readRow, start, Layout.text, fields]
  simp only [bind, Except.bind, readMembers_text names blank enough, complete_filled]

theorem writeRow_eq (fs : List Field) (row : Row fs) :
    writeRow fs row = Layout.text ⟨[], [], []⟩ fs row := by
  simp [writeRow, Layout.text]

theorem writeRowLines_eq (fs : List Field) (row : Row fs) :
    writeRowLines fs row = Layout.text ⟨['\n', ' ', ' '], [' '], ['\n']⟩ fs row := by
  simp [writeRowLines, Layout.text]

/-- A record reads back from one line. -/
theorem parseRow_rowText {fs : List Field} (names : (fs.map Field.name).Nodup) (row : Row fs) :
    parseRow fs (rowText fs row) = .ok row := by
  have blank : Layout.Blank ⟨[], [], []⟩ := by constructor <;> simp [Spaces]
  rw [parseRow, rowText, String.toList_ofList, writeRow_eq, readRow_text names blank]
  rfl

/-- A record reads back from one field a line. -/
theorem parseRow_rowLines {fs : List Field} (names : (fs.map Field.name).Nodup) (row : Row fs) :
    parseRow fs (rowLines fs row) = .ok row := by
  have blank : Layout.Blank ⟨['\n', ' ', ' '], [' '], ['\n']⟩ := by
    constructor <;> simp [Spaces, isSpace]
  rw [parseRow, rowLines, String.toList_ofList, writeRowLines_eq, readRow_text names blank]
  rfl

end MemberAuth.Json
