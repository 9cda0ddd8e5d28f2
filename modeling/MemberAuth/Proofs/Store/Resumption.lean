import Mathlib.Algebra.Group.Int.Defs
import Mathlib.Data.List.Nodup
import MemberAuth.Proofs.Store.Asking
import MemberAuth.Proofs.Store.Readback
import MemberAuth.Proofs.Store.Scan

/-!
# Ids after a store is opened

Opening a store reads the ids of all members and goes on after the highest of them and zero, unless
that is the last id there is, in which case it fails. From then on each insertion takes the next id,
whether it succeeds or not. Nothing looks at how many ids are left: the one after the last is the
least, so insertions beyond it are given ids that are below those on the disk and may be among them.
-/
namespace MemberAuth.Store

/-- The folders can be used, and every document is that of a member. -/
structure Readable (d : Disk) : Prop where
  members : d.passable membersFolder = true
  emails : d.passable emailFolder = true
  whole : ∀ name e, d.entry? (membersFolder ++ [name]) = some e → isDocumentName name = true →
    ∃ text m, e = .file text ∧ Member.parse text = .ok m

/-- Some document is that of a member with the id. -/
def Stored (d : Disk) (i : Int64) : Prop :=
  ∃ name text m, d.entry? (membersFolder ++ [name]) = some (.file text) ∧
    isDocumentName name = true ∧ Member.parse text = .ok m ∧ m.id = i

section Opening

variable {d : Disk} {i : Int64}

theorem documentId_eq_ok {e : Entry} :
    documentId e = .ok i ↔ ∃ text m, e = .file text ∧ Member.parse text = .ok m ∧ m.id = i := by
  cases e with
  | folder => simp [documentId]
  | file text =>
    cases read : Member.parse text with
    | error e => simp [documentId, read]
    | ok m => simp [documentId, read]

theorem stored_iff : Stored d i ↔ ∃ x ∈ documents d, documentId x.2 = .ok i := by
  constructor
  · rintro ⟨name, text, m, there, ending, read, same⟩
    exact ⟨(name, .file text), mem_documents_iff.mpr ⟨there, ending⟩,
      documentId_eq_ok.mpr ⟨text, m, rfl, read, same⟩⟩
  · rintro ⟨⟨name, e⟩, listed, read⟩
    obtain ⟨there, ending⟩ := mem_documents_iff.mp listed
    obtain ⟨text, m, rfl, read, same⟩ := documentId_eq_ok.mp read
    exact ⟨name, text, m, there, ending, read, same⟩

/-- The id to go on after: the highest of those on the disk and zero. -/
structure Highest (d : Disk) (highest : Int64) : Prop where
  reached : highest = 0 ∨ Stored d highest
  low : 0 ≤ highest
  above : ∀ i, Stored d i → i ≤ highest

theorem Highest.eq_maxValue_iff {highest : Int64} (h : Highest d highest) :
    highest = Int64.maxValue ↔ Stored d Int64.maxValue := by
  constructor
  · rintro rfl
    rcases h.reached with zero | stored
    · exact absurd zero (by decide)
    · exact stored
  · intro stored
    exact Int64.le_antisymm (Int64.le_maxValue highest) (h.above _ stored)

theorem Readable.nextId_openOn (h : Readable d) (freshCount : Nat) :
    ∃ highest, Highest d highest ∧ (openOn d freshCount).2.map Shelf.nextId =
      if highest = Int64.maxValue then .error .idsExhausted else .ok (highest + 1) := by
  have whole : ∀ x ∈ documents d, ∃ i, documentId x.2 = .ok i := by
    rintro ⟨name, e⟩ listed
    obtain ⟨there, ending⟩ := mem_documents_iff.mp listed
    obtain ⟨text, m, rfl, read⟩ := h.whole name e there ending
    exact ⟨m.id, documentId_eq_ok.mpr ⟨text, m, rfl, read, rfl⟩⟩
  obtain ⟨ids, mem, folded⟩ := foldlM_documentId 0 whole
  obtain ⟨reached, above⟩ := foldl_max_eq.mp (Eq.refl (ids.foldl max 0))
  refine ⟨ids.foldl max 0, ⟨?_, above 0 List.mem_cons_self, ?_⟩, ?_⟩
  · rcases List.mem_cons.mp reached with zero | listed
    · exact Or.inl zero
    · exact Or.inr (stored_iff.mpr ((mem _).mp listed))
  · intro i stored
    exact above i (List.mem_cons_of_mem 0 ((mem i).mpr (stored_iff.mp stored)))
  · have read : highestId (d.children membersFolder) = .ok (ids.foldl max 0) := folded
    rw [Store.nextId_openOn, h.members, h.emails, firstId, read]
    rfl

/-- What the next id is, if there is one. -/
theorem Readable.openOn (h : Readable d) (freshCount : Nat) :
    (Stored d Int64.maxValue ∧ (openOn d freshCount).2 = .error .idsExhausted) ∨
      ¬ Stored d Int64.maxValue ∧ ∃ s highest, (openOn d freshCount).2 = .ok s ∧
        Highest d highest ∧ highest < s.nextId ∧ s.nextId.toInt = highest.toInt + 1 := by
  obtain ⟨highest, bound, opened⟩ := h.nextId_openOn freshCount
  have last := bound.eq_maxValue_iff
  cases result : (Store.openOn d freshCount).2 with
  | error e =>
    rw [result] at opened
    split at opened
    · rename_i reached
      cases opened
      exact Or.inl ⟨last.mp reached, rfl⟩
    · cases opened
  | ok s =>
    rw [result] at opened
    split at opened
    · cases opened
    · rename_i left
      have next : s.nextId = highest + 1 := Except.ok.inj opened
      have room : highest < Int64.maxValue :=
        Int64.lt_of_le_of_ne (Int64.le_maxValue highest) left
      refine Or.inr ⟨mt last.mpr left, s, highest, rfl, bound, ?_, ?_⟩
      · rw [next]
        exact lt_succ bound.low room
      · rw [next, toInt_succ bound.low room]

/-- On a disk with the files of a store and nothing else, the documents are those of its table. -/
theorem Holds.readable {v : Contents} (h : Holds d v)
    (whole : ∀ loginId text, v (.document loginId) = some text → ∃ m, Member.parse text = .ok m) :
    Readable d := by
  refine ⟨?_, ?_, ?_⟩
  · rw [Disk.passable, h.members]
    rfl
  · rw [Disk.passable, h.emails]
    rfl
  · intro name e there ending
    obtain ⟨loginId, _, rfl⟩ := isDocumentName_iff.mp ending
    have entry : d.entry? (membersFolder ++ [loginId ++ ".json"]) =
        (v (.document loginId)).map Entry.file := h.sites (.document loginId)
    rw [entry, Option.map_eq_some_iff] at there
    obtain ⟨text, document, rfl⟩ := there
    obtain ⟨m, read⟩ := whole loginId text document
    exact ⟨text, m, rfl, read⟩

theorem Holds.stored_iff {v : Contents} (h : Holds d v) :
    Stored d i ↔ ∃ loginId text m, loginId ≠ "" ∧ v (.document loginId) = some text ∧
      Member.parse text = .ok m ∧ m.id = i := by
  have entry (loginId : String) : d.entry? (membersFolder ++ [loginId ++ ".json"]) =
      (v (.document loginId)).map Entry.file := h.sites (.document loginId)
  constructor
  · rintro ⟨name, text, m, there, ending, read, same⟩
    obtain ⟨loginId, present, rfl⟩ := isDocumentName_iff.mp ending
    rw [entry, Option.map_eq_some_iff] at there
    obtain ⟨text, document, file⟩ := there
    cases file
    exact ⟨loginId, text, m, present, document, read, same⟩
  · rintro ⟨loginId, text, m, present, document, read, same⟩
    refine ⟨loginId ++ ".json", text, m, ?_, isDocumentName_iff.mpr ⟨loginId, present, rfl⟩, read,
      same⟩
    rw [entry, document, Option.map_some]

end Opening

section Taking

variable {α : Type}

theorem nextId_after (s : Shelf) (r : Except FileError Disk) : (s.after r).1.nextId = s.nextId := by
  cases r with
  | ok disk => rfl
  | error e => rfl

/-- A script that asks for no id leaves the next one as it is. -/
theorem nextId_run {script : FileScript α} (h : Asks (fun _ => True) (· ≠ .takeId) script)
    (s : Shelf) : (script.run Shelf.perform s).1.nextId = s.nextId := by
  induction h generalizing s with
  | done a => rfl
  | @call c next other _ ih =>
    have kept : (s.perform c).1.nextId = s.nextId := by
      cases c with
      | takeId => exact absurd rfl other
      | freshPath => rfl
      | read p => rfl
      | _ => exact nextId_after s _
    exact (ih _ (c.fair_of_any _) (s.perform c).1).trans kept

theorem AsideStep.ne_takeId {aside : Path → Prop} {c : FileCall} (step : AsideStep aside c) :
    c ≠ .takeId := by
  rintro rfl
  cases step

theorem CreateStep.ne_takeId {aside : Path → Prop} {target : Path} {c : FileCall}
    (step : CreateStep aside target c) : c ≠ .takeId := by
  rintro rfl
  cases step with
  | aside step => exact step.ne_takeId rfl

/-- An insertion takes one id, whatever comes of it. -/
theorem nextId_insert (s : Shelf) (m : NewMember) :
    ((insert m).run Shelf.perform s).1.nextId = s.nextId + 1 := by
  obtain ⟨rest, first, steps⟩ := asks_insert (fun _ => True) m
  rw [first, Script.run_bind]
  refine nextId_run ((steps _).mono ?_) _
  rintro _ step rfl
  cases step with
  | reserve step => exact step.ne_takeId rfl
  | publish step => exact step.ne_takeId rfl

theorem nextId_find (s : Shelf) (loginId : String) :
    ((find loginId).run Shelf.perform s).1.nextId = s.nextId := by
  refine nextId_run ((asks_find _ loginId).mono ?_) s
  rintro _ ⟨_, step⟩ rfl
  cases step

theorem nextId_update (s : Shelf) (loginId passwordHash : String) :
    ((update loginId passwordHash).run Shelf.perform s).1.nextId = s.nextId := by
  refine nextId_run ((asks_update _ loginId passwordHash).mono ?_) s
  rintro _ ⟨_, step⟩ rfl
  cases step with
  | find step => cases step
  | aside step => exact step.ne_takeId rfl

end Taking

/-- The id that comes some places after another. After the last one come the least and the ones
above it. -/
def idAfter (start : Int64) (k : Nat) : Int64 :=
  start + Int64.ofNat k

section Numbers

variable {start : Int64} {k l : Nat}

theorem idAfter_zero (start : Int64) : idAfter start 0 = start :=
  Int64.add_zero start

theorem idAfter_succ (start : Int64) (k : Nat) : idAfter start (k + 1) = idAfter (start + 1) k := by
  have next : Int64.ofNat (k + 1) = 1 + Int64.ofNat k := by
    rw [Int64.ofNat_add, Int64.add_comm]
    rfl
  rw [idAfter, idAfter, next, Int64.add_assoc]

/-- While the ids last, they go up. -/
theorem toInt_idAfter (low : 0 ≤ start) (lasts : start.toInt + k < 2 ^ 63) :
    (idAfter start k).toInt = start.toInt + k := by
  have low : 0 ≤ start.toInt := Int64.le_iff_toInt_le.mp low
  have number : (Int64.ofNat k).toInt = k := Int64.toInt_ofNat_of_lt (by omega)
  rw [idAfter, Int64.toInt_add, number]
  exact Int.bmod_eq_of_le (by simp; omega) (by simp; omega)

/-- After the last id comes the least. -/
theorem idAfter_eq_minValue (past : start.toInt + k = 2 ^ 63) :
    idAfter start k = Int64.minValue := by
  rw [← Int64.toInt_inj, idAfter, Int64.toInt_add, Int64.toInt_ofNat', Int.add_bmod_bmod, past]
  decide

/-- No id comes twice before all have come. -/
theorem idAfter_inj (hk : k < 2 ^ 64) (hl : l < 2 ^ 64) (same : idAfter start k = idAfter start l) :
    k = l := by
  have bits := congrArg Int64.toBitVec same
  rw [idAfter, idAfter, Int64.toBitVec_add, Int64.toBitVec_add, BitVec.add_right_inj] at bits
  have numbers := congrArg BitVec.toNat bits
  rwa [Int64.toBitVec_ofNat', Int64.toBitVec_ofNat', BitVec.toNat_ofNat, BitVec.toNat_ofNat,
    Nat.mod_eq_of_lt hk, Nat.mod_eq_of_lt hl] at numbers

end Numbers

section Runs

variable {s : Shelf} {ops : List Operation}

/-- Only insertions move the next id, and only by one place. -/
theorem nextId_carryOut (s : Shelf) {o : Operation} (lasting : o ≠ .reopen) :
    (s.carryOut o).1.nextId = if o.isInsertion then s.nextId + 1 else s.nextId := by
  cases o with
  | insert m => exact nextId_insert s m
  | find loginId => exact nextId_find s loginId
  | update loginId passwordHash => exact nextId_update s loginId passwordHash
  | reopen => exact absurd rfl lasting

theorem newId_carryOut {o : Operation} {i : Int64} (given : (s.carryOut o).2.newId? = some i) :
    o.isInsertion = true ∧ i = s.nextId := by
  cases o with
  | insert m =>
    have answer : (s.carryOut (.insert m)).2 =
        .inserted ((insert m).run Shelf.perform s).2 := rfl
    rw [answer] at given
    cases stored : ((insert m).run Shelf.perform s).2 with
    | error e =>
      rw [stored] at given
      cases given
    | ok member =>
      rw [stored] at given
      obtain ⟨rfl, _⟩ := entry_of_insert_ok stored
      cases given
      exact ⟨rfl, rfl⟩
  | find loginId => cases given
  | update loginId passwordHash => cases given
  | reopen => cases given

/-- A new member has the id as many places on as there were insertions before. -/
theorem newId_getElem (lasting : .reopen ∉ ops) {p : Nat} {o : Operation} {answer : Answer}
    (there : (exchanges Shelf.carryOut s ops)[p]? = some (o, answer)) {i : Int64}
    (given : answer.newId? = some i) :
    i = idAfter s.nextId ((ops.take p).countP Operation.isInsertion) := by
  induction ops generalizing s p with
  | nil => cases there
  | cons first rest ih =>
    rw [List.mem_cons, not_or] at lasting
    cases p with
    | zero =>
      cases there
      rw [(newId_carryOut given).2]
      exact (idAfter_zero _).symm
    | succ p =>
      have moved := nextId_carryOut s (Ne.symm lasting.1)
      rw [ih lasting.2 there, moved, List.take_succ_cons, List.countP_cons]
      split
      · exact (idAfter_succ _ _).symm
      · rfl

/-- So the new members of a run have ids among as many as there are insertions, in order. -/
theorem newIds_sublist (s : Shelf) (lasting : .reopen ∉ ops) :
    (newIds (exchanges Shelf.carryOut s ops)).Sublist
      ((List.range (ops.countP Operation.isInsertion)).map (idAfter s.nextId)) := by
  induction ops generalizing s with
  | nil => exact .slnil
  | cons o rest ih =>
    rw [List.mem_cons, not_or] at lasting
    have later := ih (s.carryOut o).1 lasting.2
    rw [nextId_carryOut s (Ne.symm lasting.1)] at later
    rw [exchanges, newIds, List.filterMap_cons]
    by_cases counts : o.isInsertion = true
    · have shifted : idAfter s.nextId ∘ Nat.succ = idAfter (s.nextId + 1) :=
        funext (idAfter_succ s.nextId)
      rw [if_pos counts] at later
      rw [List.countP_cons_of_pos counts, List.range_succ_eq_map, List.map_cons, idAfter_zero,
        List.map_map, shifted]
      split
      · exact later.cons _
      · rename_i i given
        rw [(newId_carryOut given).2]
        exact later.cons_cons _
    · rw [if_neg counts] at later
      rw [List.countP_cons_of_neg counts]
      split
      · exact later
      · rename_i i given
        exact absurd (newId_carryOut given).1 counts

theorem newIds_nodup (s : Shelf) (lasting : .reopen ∉ ops)
    (few : ops.countP Operation.isInsertion ≤ 2 ^ 64) :
    (newIds (exchanges Shelf.carryOut s ops)).Nodup := by
  refine (newIds_sublist s lasting).nodup ?_
  refine List.Nodup.map_on ?_ List.nodup_range
  intro k hk l hl same
  rw [List.mem_range] at hk hl
  exact idAfter_inj (by omega) (by omega) same

theorem newIds_increasing_from (s : Shelf) (lasting : .reopen ∉ ops) (low : 0 ≤ s.nextId)
    (left : s.nextId.toInt + ops.countP Operation.isInsertion ≤ 2 ^ 63) :
    (newIds (exchanges Shelf.carryOut s ops)).Pairwise (· < ·) ∧
      ∀ i ∈ newIds (exchanges Shelf.carryOut s ops), s.nextId ≤ i := by
  have ids := newIds_sublist s lasting
  constructor
  · refine List.Pairwise.sublist ids ?_
    rw [List.pairwise_map]
    refine List.Pairwise.imp_of_mem ?_ List.pairwise_lt_range
    intro k l hk hl before
    rw [List.mem_range] at hk hl
    rw [Int64.lt_iff_toInt_lt, toInt_idAfter low (by omega), toInt_idAfter low (by omega)]
    omega
  · intro i given
    obtain ⟨k, hk, rfl⟩ := List.mem_map.mp (ids.subset given)
    rw [List.mem_range] at hk
    rw [Int64.le_iff_toInt_le, toInt_idAfter low (by omega)]
    omega

end Runs

/-- A member with the least id, and one with the last id but one. -/
def low : Member :=
  { Workshop.ada.withId Int64.minValue with loginId := "low", email := "low@example.org" }

def high : Member :=
  { Workshop.ada.withId (Int64.maxValue - 1) with loginId := "high", email := "high@example.org" }

/-- A disk with the documents of both. -/
def rims : Disk :=
  (Workshop.bareDisk.set (documentPath "low") (.file low.document)).set (documentPath "high")
    (.file high.document)

def bob : NewMember :=
  { Workshop.ada with loginId := ⟨"bob", rfl⟩, email := ⟨"bob@example.org", rfl⟩ }

def rimContents : Contents :=
  Function.update (Function.update Workshop.bareCatalog.contents (.document "low")
    (some low.document)) (.document "high") (some high.document)

theorem holds_rims : Holds rims rimContents :=
  (Workshop.holds_bareDisk.set (.document "low") low.document).set (.document "high") high.document

theorem document_rims {loginId text : String}
    (there : rimContents (.document loginId) = some text) :
    text = low.document ∨ text = high.document := by
  rw [rimContents] at there
  by_cases second : loginId = "high"
  · subst second
    rw [Function.update_self] at there
    exact Or.inr (Option.some.inj there).symm
  rw [Function.update_of_ne (by simpa using second)] at there
  by_cases first : loginId = "low"
  · subst first
    rw [Function.update_self] at there
    exact Or.inl (Option.some.inj there).symm
  rw [Function.update_of_ne (by simpa using first)] at there
  cases there

theorem readable_rims : Readable rims := by
  refine holds_rims.readable fun loginId text there => ?_
  rcases document_rims there with rfl | rfl
  · exact ⟨low, Member.parse_document low⟩
  · exact ⟨high, Member.parse_document high⟩

/-- A store opens on any documents of members unless one of them has the last id, and its next id is
then the one after the highest. In any run of operations on it, a new member has the id as many
places after that as there were insertions before. So ids come twice only after all have come, and
they are in order and above all those that were on the disk as long as there are some left: the one
after the last is the least. -/
theorem ids_resume_until_exhausted {d : Disk} (readable : Readable d) (freshCount : Nat) :
    ((openOn d freshCount).2 = .error .idsExhausted ↔ Stored d Int64.maxValue) ∧
    (¬ Stored d Int64.maxValue → ∃ s, (openOn d freshCount).2 = .ok s ∧
      (∃ highest, Highest d highest ∧ s.nextId.toInt = highest.toInt + 1) ∧
      ∀ ops, .reopen ∉ ops →
        (∀ p o answer i, (exchanges Shelf.carryOut s ops)[p]? = some (o, answer) →
          answer.newId? = some i →
          i = idAfter s.nextId ((ops.take p).countP Operation.isInsertion)) ∧
        (ops.countP Operation.isInsertion ≤ 2 ^ 64 →
          (newIds (exchanges Shelf.carryOut s ops)).Nodup) ∧
        (s.nextId.toInt + ops.countP Operation.isInsertion ≤ 2 ^ 63 →
          (newIds (exchanges Shelf.carryOut s ops)).Pairwise (· < ·) ∧
          ∀ i ∈ newIds (exchanges Shelf.carryOut s ops), ∀ j, Stored d j → j < i) ∧
        ∀ k : Nat, s.nextId.toInt + k = 2 ^ 63 → idAfter s.nextId k = Int64.minValue) := by
  rcases readable.openOn freshCount with ⟨last, refused⟩ | ⟨left, opens⟩
  · exact ⟨iff_of_true refused last, fun left => absurd last left⟩
  · obtain ⟨s, highest, opened, bound, above, next⟩ := opens
    have accepted : (openOn d freshCount).2 ≠ .error .idsExhausted := by
      simp [opened]
    have low : 0 ≤ s.nextId := Int64.le_of_lt (Int64.lt_of_le_of_lt bound.low above)
    refine ⟨iff_of_false accepted left, fun _ => ⟨s, opened, ⟨highest, bound, next⟩,
      fun ops lasting => ⟨?each, newIds_nodup s lasting, ?order, ?last⟩⟩⟩
    case each =>
      intro p o answer i there given
      exact newId_getElem lasting there given
    case order =>
      intro enough
      obtain ⟨increasing, first⟩ := newIds_increasing_from s lasting low enough
      refine ⟨increasing, fun i given j stored => ?_⟩
      exact Int64.lt_of_lt_of_le (Int64.lt_of_le_of_lt (bound.above j stored) above) (first i given)
    case last =>
      intro k past
      exact idAfter_eq_minValue past

/-- One id is left on that disk, and the next new member has it. -/
theorem ids_resume_until_exhausted_at_last : Readable rims ∧ ¬ Stored rims Int64.maxValue ∧
    ∃ s, (openOn rims 0).2 = .ok s ∧ .reopen ∉ [Operation.insert Workshop.ada] ∧
      ∀ i ∈ newIds (exchanges Shelf.carryOut s [.insert Workshop.ada]),
        Int64.maxValue - 1 < i := by
  have left : ¬ Stored rims Int64.maxValue := by
    intro stored
    obtain ⟨loginId, text, m, _, there, read, last⟩ := holds_rims.stored_iff.mp stored
    rcases document_rims there with rfl | rfl
    · rw [Member.parse_document] at read
      cases read
      exact absurd last (by decide)
    · rw [Member.parse_document] at read
      cases read
      exact absurd last (by decide)
  have stored : Stored rims (Int64.maxValue - 1) := by
    refine holds_rims.stored_iff.mpr ⟨"high", high.document, high, by decide, ?_,
      Member.parse_document high, rfl⟩
    rw [rimContents, Function.update_self]
  have lasting : .reopen ∉ [Operation.insert Workshop.ada] := by simp
  obtain ⟨_, opens⟩ := ids_resume_until_exhausted readable_rims 0
  obtain ⟨s, opened, ⟨highest, bound, next⟩, runs⟩ := opens left
  obtain ⟨_, _, order, _⟩ := runs _ lasting
  have room : highest.toInt < 2 ^ 63 - 1 :=
    Int64.lt_iff_toInt_lt.mp
      (Int64.lt_of_le_of_ne (Int64.le_maxValue highest) (mt bound.eq_maxValue_iff.mp left))
  have one : [Operation.insert Workshop.ada].countP Operation.isInsertion = 1 := rfl
  have enough : s.nextId.toInt + [Operation.insert Workshop.ada].countP Operation.isInsertion ≤
      2 ^ 63 := by
    rw [one]
    omega
  exact ⟨readable_rims, left, s, opened, lasting, fun i given => (order enough).2 i given _ stored⟩

/-- The second new member is given the id of one who is on the disk. -/
theorem id_given_twice : ∃ s, (openOn rims 0).2 = .ok s ∧ Readable rims ∧
    newIds (exchanges Shelf.carryOut s [.insert Workshop.ada, .insert bob]) =
      [Int64.maxValue, Int64.minValue] ∧ Stored rims Int64.minValue := by
  have given : (openOn rims 0).2.map (fun s =>
      newIds (exchanges Shelf.carryOut s [.insert Workshop.ada, .insert bob])) =
        .ok [Int64.maxValue, Int64.minValue] := by
    decide +kernel
  have stored : Stored rims Int64.minValue := by
    refine holds_rims.stored_iff.mpr ⟨"low", low.document, low, by decide, ?_,
      Member.parse_document low, rfl⟩
    rw [rimContents, Function.update_of_ne (by decide), Function.update_self]
  cases opened : (openOn rims 0).2 with
  | error e =>
    rw [opened] at given
    cases given
  | ok s =>
    rw [opened] at given
    exact ⟨s, rfl, readable_rims, Except.ok.inj given, stored⟩

end MemberAuth.Store
