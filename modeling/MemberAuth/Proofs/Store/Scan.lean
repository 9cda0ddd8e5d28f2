import MemberAuth.Proofs.Store.Persistence

/-!
# What opening a store reads

Opening makes two folders, which fails only where a file stands in their place, and then reads the
documents in the first of them. So the first id that it gives out is read off the disk as it was,
and from nothing but these documents.
-/
namespace MemberAuth

namespace Disk

variable {d d' : Disk}

/-- No file stands at the path. A folder is there or can be made. -/
def passable (d : Disk) (p : Path) : Bool :=
  (d.entry? p).all (· = .folder)

theorem passable_set_folder {p : Path} (absent : d.entry? p = none) (q : Path) :
    (d.set p .folder).passable q = d.passable q := by
  have named : p ≠ [] := by
    apply ne_nil_of_not_folder (d := d)
    simp [absent]
  rw [passable, passable, entry?_set _ named]
  by_cases here : p = q
  · subst q
    simp [absent]
  · rw [if_neg here]

theorem makeEach_snd (ps : List Path) :
    (d.makeEach ps).2 = if ps.all d.passable then .ok () else .error .other := by
  induction ps generalizing d with
  | nil => rfl
  | cons p rest ih =>
    rw [makeEach]
    cases here : d.entry? p with
    | none =>
      have made : (d.set p .folder).passable = d.passable :=
        funext (passable_set_folder here)
      simp [ih, made, passable, here]
    | some e =>
      cases e with
      | folder => simp [ih, passable, here]
      | file text => simp [passable, here]

/-- Making folders changes nothing elsewhere. -/
theorem entry?_makeEach {ps : List Path} {q : Path} (other : q ∉ ps) :
    Disk.entry? (d.makeEach ps).1 q = d.entry? q := by
  induction ps generalizing d with
  | nil => rfl
  | cons p rest ih =>
    rw [List.mem_cons, not_or] at other
    rw [makeEach]
    cases here : d.entry? p with
    | none =>
      have named : p ≠ [] := by
        apply ne_nil_of_not_folder (d := d)
        simp [here]
      dsimp only
      rw [ih other.2, entry?_set _ named, if_neg (Ne.symm other.1)]
    | some e =>
      cases e with
      | folder => exact ih other.2
      | file text => rfl

/-- The children with certain names are those of the disk without any other entries. -/
theorem filter_children (d : Disk) (folder : Path) (wanted : String → Bool) :
    (d.children folder).filter (fun (name, _) => wanted name) =
      Disk.children ⟨d.entries.filter fun q _ =>
        decide (q.dropLast = folder) && q.getLast?.any wanted⟩ folder := by
  rw [children, children, List.filter_filterMap, Std.ExtTreeMap.toList_filter,
    List.filterMap_filter]
  congr 1
  funext x
  obtain ⟨q, e⟩ := x
  by_cases inside : q.dropLast = folder
  · cases last : q.getLast? with
    | none => simp [last]
    | some name => cases asked : wanted name <;> simp [inside, last, asked]
  · simp [inside]

theorem filter_children_congr {folder : Path} {wanted : String → Bool}
    (same : ∀ name, wanted name = true →
      d.entry? (folder ++ [name]) = d'.entry? (folder ++ [name])) :
    (d.children folder).filter (fun (name, _) => wanted name) =
      (d'.children folder).filter (fun (name, _) => wanted name) := by
  rw [filter_children, filter_children]
  congr 2
  ext q e
  rw [Std.ExtTreeMap.getElem?_filter', Std.ExtTreeMap.getElem?_filter']
  by_cases inside : q.dropLast = folder
  · cases last : q.getLast? with
    | none => simp
    | some name =>
      have whole : q = folder ++ [name] := by
        rw [← inside]
        exact (List.dropLast_append_getLast? name last).symm
      cases asked : wanted name with
      | false => simp [asked]
      | true =>
        have here := same name asked
        rw [entry?_of_ne_nil _ (by simp), entry?_of_ne_nil _ (by simp), ← whole] at here
        rw [here]
  · simp [inside]

end Disk

namespace Store

/-- The files that are read when a store is opened. -/
def documents (d : Disk) : List (String × Entry) :=
  (d.children membersFolder).filter fun (name, _) => isDocumentName name

variable {d d' : Disk}

theorem documents_congr (same : ∀ name, isDocumentName name = true →
    d.entry? (membersFolder ++ [name]) = d'.entry? (membersFolder ++ [name])) :
    documents d = documents d' :=
  Disk.filter_children_congr same

theorem mem_documents_iff {name : String} {e : Entry} :
    (name, e) ∈ documents d ↔
      d.entry? (membersFolder ++ [name]) = some e ∧ isDocumentName name = true := by
  rw [documents, List.mem_filter, Disk.mem_children]

theorem firstId_congr (same : documents d = documents d') :
    firstId (d.children membersFolder) = firstId (d'.children membersFolder) := by
  rw [documents, documents] at same
  rw [firstId, firstId, highestId, highestId, same]

theorem makeFolders_emailFolder (d : Disk) :
    d.makeFolders emailFolder = d.makeEach [membersFolder, emailFolder] := rfl

/-- Neither folder is a document, so making them leaves all documents as they are. -/
theorem documents_makeFolders (d : Disk) :
    documents (d.makeFolders emailFolder).1 = documents d := by
  refine documents_congr fun name ending => ?_
  rw [makeFolders_emailFolder, Disk.entry?_makeEach]
  intro folder
  simp only [membersFolder, emailFolder, List.mem_cons, List.not_mem_nil, or_false] at folder
  rcases folder with above | beside
  · simp at above
  · have same : name = "by-email" := name_inj beside
    rw [same] at ending
    exact absurd ending (by decide)

/-- The outcome of opening a store, read off the disk before. -/
theorem nextId_openOn (d : Disk) (freshCount : Nat) :
    (openOn d freshCount).2.map Shelf.nextId =
      if d.passable membersFolder && d.passable emailFolder then
        firstId (d.children membersFolder)
      else .error .io := by
  have outcome : (d.makeFolders emailFolder).2 =
      if d.passable membersFolder && d.passable emailFolder then .ok () else .error .other := by
    simpa [makeFolders_emailFolder] using d.makeEach_snd [membersFolder, emailFolder]
  have read := firstId_congr (documents_makeFolders d)
  rw [openOn]
  cases made : d.makeFolders emailFolder with
  | mk disk result =>
    rw [made] at outcome read
    dsimp only at outcome read
    by_cases clear : (d.passable membersFolder && d.passable emailFolder) = true
    · rw [if_pos clear] at outcome ⊢
      subst outcome
      dsimp only
      rw [read]
      cases firstId (d.children membersFolder) <;> rfl
    · rw [if_neg clear] at outcome ⊢
      subst outcome
      rfl

end Store

end MemberAuth
