import MemberAuth.Proofs.Store.Exclusion
import MemberAuth.Proofs.Store.Sequential

/-!
# A store answers as a map, across restarts

Opening a store again reads all its documents, finds each of them whole, and goes on with ids after
the highest one. So a run of operations with any number of restarts in it, from an empty directory
on, is answered as the map answers it.
-/
namespace MemberAuth

theorem Disk.mem_children {d : Disk} {p : Path} {name : String} {e : Entry} :
    (name, e) ∈ d.children p ↔ d.entry? (p ++ [name]) = some e := by
  rw [Disk.children, List.mem_filterMap, Disk.entry?_of_ne_nil _ (by simp)]
  constructor
  · rintro ⟨⟨q, e'⟩, mem, found⟩
    dsimp only at found
    split at found
    · rename_i folder
      obtain ⟨last, hlast, pair⟩ := Option.map_eq_some_iff.mp found
      cases pair
      have whole : q = p ++ [name] := by
        rw [← folder]
        exact (List.dropLast_append_getLast? name hlast).symm
      rw [← whole]
      exact Std.ExtTreeMap.mem_toList_iff_getElem?_eq_some.mp mem
    · cases found
  · intro entry
    exact ⟨(p ++ [name], e), Std.ExtTreeMap.mem_toList_iff_getElem?_eq_some.mpr entry, by simp⟩

namespace Store

theorem isDocumentName_iff {name : String} :
    isDocumentName name = true ↔ ∃ loginId, loginId ≠ "" ∧ name = loginId ++ ".json" := by
  have ending : ".json".toList = ['.', 'j', 's', 'o', 'n'] := by decide
  rw [isDocumentName, Bool.and_eq_true, decide_eq_true_iff, List.isSuffixOf_iff_suffix]
  constructor
  · rintro ⟨long, front, split⟩
    refine ⟨String.ofList front, ?_, ?_⟩
    · intro empty
      have none : front = [] := String.ofList_eq_empty_iff.mp empty
      rw [← split, none] at long
      exact absurd long (by decide)
    · rw [← String.toList_inj, String.toList_append, String.toList_ofList, ending, split]
  · rintro ⟨loginId, present, rfl⟩
    rw [String.toList_append, ending]
    refine ⟨?_, List.suffix_append ..⟩
    have long : loginId.toList ≠ [] := fun none => present (String.toList_eq_nil_iff.mp none)
    have := List.length_pos_iff.mpr long
    rw [List.length_append]
    simp only [List.length_cons, List.length_nil]
    omega

/-- If every document can be read, the highest id is that of the ids in them. -/
theorem foldlM_documentId {entries : List (String × Entry)} (start : Int64)
    (whole : ∀ x ∈ entries, ∃ i, documentId x.2 = .ok i) :
    ∃ ids : List Int64, (∀ i, i ∈ ids ↔ ∃ x ∈ entries, documentId x.2 = .ok i) ∧
      entries.foldlM (fun highest (_, e) => do pure (max highest (← documentId e))) start =
        (.ok (ids.foldl max start) : Except OpenError Int64) := by
  induction entries generalizing start with
  | nil => exact ⟨[], by simp, rfl⟩
  | cons x rest ih =>
    obtain ⟨i, hi⟩ := whole x List.mem_cons_self
    obtain ⟨ids, mem, folded⟩ :=
      ih (max start i) fun y hy => whole y (List.mem_cons_of_mem x hy)
    refine ⟨i :: ids, fun j => ?_, ?_⟩
    · rw [List.mem_cons, mem, List.exists_mem_cons_iff, hi, Except.ok.injEq, eq_comm]
    · obtain ⟨name, e⟩ := x
      have hi : documentId e = .ok i := hi
      rw [List.foldlM_cons]
      dsimp only
      rw [hi]
      exact folded

namespace Holds

variable {d : Disk} {v : Contents}

theorem makeFolders (h : Holds d v) : d.makeFolders emailFolder = (d, .ok ()) := by
  have way : Disk.above emailFolder ++ [emailFolder] = [membersFolder, emailFolder] := rfl
  rw [Disk.makeFolders, way, Disk.makeEach, h.members]
  dsimp only
  rw [Disk.makeEach, h.emails]
  rfl

/-- The entries with the ending of a document are the documents. -/
theorem mem_documents (h : Holds d v) {name : String} {e : Entry} :
    (name, e) ∈ (d.children membersFolder).filter (fun (name, _) => isDocumentName name) ↔
      ∃ loginId text, loginId ≠ "" ∧ v (.document loginId) = some text ∧
        name = loginId ++ ".json" ∧ e = .file text := by
  have entry (loginId : String) : d.entry? (membersFolder ++ [loginId ++ ".json"]) =
      (v (.document loginId)).map Entry.file := h.sites (.document loginId)
  rw [List.mem_filter, Disk.mem_children]
  constructor
  · rintro ⟨there, ending⟩
    obtain ⟨loginId, present, rfl⟩ := isDocumentName_iff.mp ending
    rw [entry, Option.map_eq_some_iff] at there
    obtain ⟨text, document, rfl⟩ := there
    exact ⟨loginId, text, present, document, rfl, rfl⟩
  · rintro ⟨loginId, text, present, document, rfl, rfl⟩
    refine ⟨?_, isDocumentName_iff.mpr ⟨loginId, present, rfl⟩⟩
    rw [entry, document, Option.map_some]

/-- If every document is that of a member, a store opens on the disk unless the highest id in it is
the last one. -/
theorem openOn_eq (h : Holds d v) (freshCount : Nat)
    (whole : ∀ loginId text, v (.document loginId) = some text →
      loginId ≠ "" ∧ ∃ m : Member, text = m.document) :
    ∃ ids : List Int64,
      (∀ i, i ∈ ids ↔ ∃ (loginId : String) (m : Member),
        v (.document loginId) = some m.document ∧ m.id = i) ∧
      openOn d freshCount = (d, if ids.foldl max 0 = Int64.maxValue then .error .idsExhausted
        else .ok ⟨d, ids.foldl max 0 + 1, freshCount⟩) := by
  have id (m : Member) : documentId (.file m.document) = .ok m.id := by
    rw [documentId, Member.parse_document]
  have each : ∀ x ∈ (d.children membersFolder).filter (fun (name, _) => isDocumentName name),
      ∃ i, documentId x.2 = .ok i := by
    rintro ⟨name, e⟩ hx
    obtain ⟨loginId, text, _, document, _, rfl⟩ := h.mem_documents.mp hx
    obtain ⟨_, m, rfl⟩ := whole loginId text document
    exact ⟨m.id, id m⟩
  obtain ⟨ids, mem, folded⟩ := foldlM_documentId 0 each
  refine ⟨ids, fun i => ?_, ?_⟩
  · rw [mem]
    constructor
    · rintro ⟨⟨name, e⟩, hx, read⟩
      obtain ⟨loginId, text, _, document, _, rfl⟩ := h.mem_documents.mp hx
      obtain ⟨_, m, rfl⟩ := whole loginId text document
      rw [id] at read
      exact ⟨loginId, m, document, Except.ok.inj read⟩
    · rintro ⟨loginId, m, document, rfl⟩
      obtain ⟨present, _⟩ := whole loginId _ document
      have there := h.mem_documents.mpr ⟨loginId, _, present, document, rfl, rfl⟩
      exact ⟨_, there, id m⟩
  · rw [openOn, h.makeFolders]
    dsimp only
    rw [firstId, highestId, folded]
    simp only [bind, Except.bind]
    split
    · rfl
    · rfl

end Holds

namespace Shelf

/-- Closes the store and opens it again. -/
def reopen (s : Shelf) : Shelf × Except OpenError Unit :=
  match openOn s.disk s.freshCount with
  | (disk, .ok opened) => ({ opened with disk }, .ok ())
  | (disk, .error e) => ({ s with disk }, .error e)

def carryOut : Operation → Shelf → Shelf × Answer
  | .insert m, s =>
    let (s, result) := (Store.insert m).run perform s
    (s, .inserted result)
  | .find loginId, s =>
    let (s, result) := (Store.find loginId).run perform s
    (s, .found result)
  | .update loginId passwordHash, s =>
    let (s, result) := (Store.update loginId passwordHash).run perform s
    (s, .updated result)
  | .reopen, s =>
    let (s, result) := s.reopen
    (s, .reopened result)

namespace Keeps

variable {s : Shelf} {r : Roster} {given : Nat}

/-- A store opens again unless the highest id is the last one. -/
theorem openOn (h : s.Keeps r) (freshCount : Nat) :
    Store.openOn s.disk freshCount =
      (s.disk, if r.highest = Int64.maxValue then .error .idsExhausted
        else .ok ⟨s.disk, r.highest + 1, freshCount⟩) := by
  obtain ⟨c, holds, bears⟩ := h.disk
  have document (loginId : String) (m : Member) :
      c.contents (.document loginId) = some m.document ↔ r.members[loginId]? = some m := by
    rw [bears.contents_document, Option.map_eq_some_iff]
    constructor
    · rintro ⟨n, stored, same⟩
      rwa [Member.document_injective same] at stored
    · exact fun stored => ⟨m, stored, rfl⟩
  obtain ⟨ids, mem, opened⟩ := holds.openOn_eq freshCount fun loginId text there => by
    rw [bears.contents_document, Option.map_eq_some_iff] at there
    obtain ⟨m, stored, rfl⟩ := there
    exact ⟨LoginId.ne_empty_of_check (h.own loginId m stored).2, m, rfl⟩
  have highest : ids.foldl max 0 = r.highest := by
    have bound := Roster.highest_eq.mp (Eq.refl r.highest)
    rw [foldl_max_eq]
    simp only [List.mem_cons, mem, document, Roster.mem_ids] at bound ⊢
    exact bound
  rw [opened, highest]

/-- The store that is opened holds the same members. -/
theorem of_openOn (h : s.Keeps r) {freshCount : Nat} {opened : Shelf}
    (ok : (Store.openOn s.disk freshCount).2 = .ok opened) :
    opened.Keeps { r with lastId := r.highest } := by
  rw [h.openOn] at ok
  dsimp only at ok
  split at ok
  · cases ok
  · cases ok
    exact ⟨h.disk, rfl, h.own⟩

theorem reopen (h : s.Keeps r) (sound : r.Sound given) (few : given < 2 ^ 63 - 1) :
    s.reopen = ({ s with nextId := r.highest + 1 }, .ok ()) := by
  have left : r.highest ≠ Int64.maxValue := by
    intro last
    have bound : r.highest.toInt ≤ given :=
      Int.le_trans (Int64.le_iff_toInt_le.mp sound.highest_le) sound.high
    rw [last, Int64.toInt_maxValue] at bound
    omega
  rw [Shelf.reopen, h.openOn, if_neg left]

theorem carryOut (h : s.Keeps r) (sound : r.Sound given) (few : given < 2 ^ 63 - 1)
    (o : Operation) : (Shelf.carryOut o s).2 = (Roster.carryOut o r).2 ∧
      (Shelf.carryOut o s).1.Keeps (Roster.carryOut o r).1 := by
  cases o with
  | insert m =>
    obtain ⟨answer, kept⟩ := h.insert m
    exact ⟨congrArg Answer.inserted answer, kept⟩
  | find loginId =>
    rw [Shelf.carryOut, run_find, h.find]
    exact ⟨rfl, h⟩
  | update loginId passwordHash =>
    obtain ⟨answer, kept⟩ := h.update loginId passwordHash
    exact ⟨congrArg Answer.updated answer, kept⟩
  | reopen =>
    rw [Shelf.carryOut, h.reopen sound few]
    exact ⟨rfl, h.disk, rfl, h.own⟩

/-- Step by step, a store answers as the map that it keeps. -/
theorem exchanges_eq {ops : List Operation} (h : s.Keeps r) (sound : r.Sound given)
    (few : given + ops.countP Operation.isInsertion < 2 ^ 63 - 1) :
    exchanges Shelf.carryOut s ops = exchanges Roster.carryOut r ops := by
  induction ops generalizing s r given with
  | nil => rfl
  | cons o rest ih =>
    rw [List.countP_cons] at few
    obtain ⟨answer, kept⟩ := h.carryOut sound (by omega) o
    have later := ih kept (sound.carryOut (by omega) o) (by omega)
    rw [exchanges, exchanges, answer, later]

end Keeps

theorem keeps_empty {freshCount : Nat} {s : Shelf}
    (opened : (Store.openOn Disk.empty freshCount).2 = .ok s) : s.Keeps Roster.empty := by
  rw [Workshop.openOn_empty] at opened
  cases opened
  refine ⟨⟨Workshop.bareCatalog, Workshop.holds_bareDisk, ?_⟩, rfl, ?_⟩
  · refine ⟨fun loginId => ?_, fun key loginId => ?_, fun n => rfl⟩
    · simp [Roster.empty, Workshop.bareCatalog]
    · simp [Roster.empty, Workshop.bareCatalog]
  · simp [Roster.empty]

end Shelf

/-- A store opens in an empty directory, and from then on answers every run of operations as the map
does, restarts included: it always opens again, finds nothing under what is no login id, and gives
each new member a higher id than all before. -/
theorem exchanges_eq_roster (freshCount : Nat) {ops : List Operation}
    (few : ops.countP Operation.isInsertion < 2 ^ 63 - 1) :
    ∃ s, (openOn Disk.empty freshCount).2 = .ok s ∧
      exchanges Shelf.carryOut s ops = exchanges Roster.carryOut .empty ops ∧
      (∀ answer, (.reopen, answer) ∈ exchanges Shelf.carryOut s ops → answer = .reopened (.ok ())) ∧
      (∀ loginId answer, (.find loginId, answer) ∈ exchanges Shelf.carryOut s ops →
        ¬ (1 ≤ loginId.length ∧ loginId.length ≤ 50 ∧
          ∀ c ∈ loginId.toList, Text.isAsciiAlphanumeric c = true) →
        answer = .found (.ok none)) ∧
      (newIds (exchanges Shelf.carryOut s ops)).Pairwise (· < ·) := by
  have opened : (openOn Disk.empty freshCount).2 = .ok ⟨Workshop.bareDisk, 1, freshCount⟩ :=
    congrArg Prod.snd (Workshop.openOn_empty freshCount)
  refine ⟨_, opened, ?_⟩
  have few : 0 + ops.countP Operation.isInsertion < 2 ^ 63 - 1 := by rwa [Nat.zero_add]
  have same := (Shelf.keeps_empty opened).exchanges_eq Roster.sound_empty few
  rw [same]
  refine ⟨rfl, fun answer mem => ?_, fun loginId answer mem malformed => ?_, ?_⟩
  · exact Roster.forall_exchanges (p := fun x => x.1 = .reopen → x.2 = .reopened (.ok ()))
      (by rintro r given _ _ rfl; rfl) Roster.sound_empty few _ mem rfl
  · refine Roster.forall_exchanges (p := fun x => x.1 = .find loginId → x.2 = .found (.ok none))
      ?_ Roster.sound_empty few _ mem rfl
    rintro r given _ sound rfl
    have absent := sound.find_malformed (mt LoginId.check_eq_ok.mp malformed)
    exact congrArg (fun found => Answer.found (.ok found)) absent
  · exact (Roster.newIds_increasing Roster.sound_empty few).1

/-- A refused registration uses up an id, which a restart gives back. -/
theorem exchanges_eq_roster_of_refused_email :
    let bob : NewMember :=
      { Workshop.ada with loginId := ⟨"bob", rfl⟩, email := ⟨"bob@example.org", rfl⟩ }
    let run : List Operation := [.insert Workshop.ada, .insert Workshop.eve, .reopen, .insert bob,
      .update "ada" "other", .find "ada", .find "../ada"]
    exchanges Shelf.carryOut ⟨Workshop.bareDisk, 1, 0⟩ run = exchanges Roster.carryOut .empty run ∧
      (exchanges Shelf.carryOut ⟨Workshop.bareDisk, 1, 0⟩ run).map Prod.snd =
        [.inserted (.ok (Workshop.ada.withId 1)),
          .inserted (.error (.duplicateMember "ada@example.org")), .reopened (.ok ()),
          .inserted (.ok (bob.withId 2)), .updated (.ok ()),
          .found (.ok (some { Workshop.ada.withId 1 with passwordHash := "other" })),
          .found (.ok none)] := by
  intro bob run
  have few : run.countP Operation.isInsertion < 2 ^ 63 - 1 := by decide
  obtain ⟨s, opened, same, _⟩ := exchanges_eq_roster 0 few
  rw [Workshop.openOn_empty] at opened
  cases opened
  refine ⟨same, ?_⟩
  rw [same]
  decide +kernel

end Store

end MemberAuth
