import MemberAuth.Store.Opening

/-!
# Entries of the disk

What each file operation does to the entry at a path, and why the three kinds of paths that the
store uses never meet: documents end in `.json`, temporary files in `.tmp`, and reservations lie one
folder deeper.
-/
namespace MemberAuth

namespace Disk

theorem entry?_of_ne_nil (d : Disk) {p : Path} (hp : p ≠ []) : d.entry? p = d.entries[p]? :=
  if_neg hp

theorem entry?_set (d : Disk) {p : Path} (hp : p ≠ []) (e : Entry) (q : Path) :
    Disk.entry? (d.set p e) q = if p = q then some e else d.entry? q := by
  by_cases hq : q = []
  · subst q
    rw [if_neg hp]
    rfl
  · rw [entry?_of_ne_nil _ hq, entry?_of_ne_nil _ hq]
    simp [set, Std.ExtTreeMap.getElem?_insert]

theorem entry?_erase (d : Disk) {p : Path} (hp : p ≠ []) (q : Path) :
    Disk.entry? (d.erase p) q = if p = q then none else d.entry? q := by
  by_cases hq : q = []
  · subst q
    rw [if_neg hp]
    rfl
  · rw [entry?_of_ne_nil _ hq, entry?_of_ne_nil _ hq]
    simp [erase, Std.ExtTreeMap.getElem?_erase]

/-- The empty path is a folder, and nothing else can be put there. -/
theorem ne_nil_of_not_folder {d : Disk} {p : Path} (h : d.entry? p ≠ some .folder) : p ≠ [] := by
  rintro rfl
  exact h rfl

theorem read_eq_ok {d : Disk} {p : Path} {text : String} :
    d.read p = .ok text ↔ d.entry? p = some (.file text) := by
  rw [read]
  split <;> simp_all

theorem checkParent_eq_ok {d : Disk} {p : Path} :
    d.checkParent p = .ok () ↔ d.entry? p.dropLast = some .folder := by
  rw [checkParent]
  split <;> simp_all

theorem write_ok {d d' : Disk} {p : Path} {text : String} (h : d.write p text = .ok d') :
    p ≠ [] ∧ d' = d.set p (.file text) := by
  rw [write] at h
  cases hc : d.checkParent p with
  | error e => rw [hc] at h; cases h
  | ok u =>
    rw [hc] at h
    change (if d.entry? p = some .folder then Except.error FileError.other
      else .ok (d.set p (.file text))) = .ok d' at h
    split at h
    · cases h
    · rename_i hf
      exact ⟨ne_nil_of_not_folder hf, (Except.ok.inj h).symm⟩

theorem link_ok {d d' : Disk} {source target : Path} (h : d.link source target = .ok d') :
    target ≠ [] ∧ d.entry? target = none ∧
      ∃ text, d.entry? source = some (.file text) ∧ d' = d.set target (.file text) := by
  rw [link] at h
  cases hr : d.read source with
  | error e => rw [hr] at h; cases h
  | ok text =>
    cases hc : d.checkParent target with
    | error e => rw [hr] at h; simp only [bind, Except.bind, hc] at h; cases h
    | ok u =>
      rw [hr] at h
      simp only [bind, Except.bind, hc] at h
      split at h
      · cases h
      · rename_i hn
        have habsent : d.entry? target = none := by simpa using hn
        refine ⟨ne_nil_of_not_folder (by rw [habsent]; simp), habsent, text, ?_, ?_⟩
        · exact read_eq_ok.mp hr
        · exact (Except.ok.inj h).symm

theorem rename_ok {d d' : Disk} {source target : Path} (h : d.rename source target = .ok d') :
    target ≠ [] ∧ ∃ text, d.entry? source = some (.file text) ∧
      d' = (d.erase source).set target (.file text) := by
  rw [rename] at h
  cases hr : d.read source with
  | error e => rw [hr] at h; cases h
  | ok text =>
    cases hc : d.checkParent target with
    | error e => rw [hr] at h; simp only [bind, Except.bind, hc] at h; cases h
    | ok u =>
      rw [hr] at h
      simp only [bind, Except.bind, hc] at h
      split at h
      · cases h
      · rename_i hf
        exact ⟨ne_nil_of_not_folder hf, text, read_eq_ok.mp hr, (Except.ok.inj h).symm⟩

theorem remove_ok {d d' : Disk} {p : Path} (h : d.remove p = .ok d') :
    p ≠ [] ∧ (∃ text, d.entry? p = some (.file text)) ∧ d' = d.erase p := by
  rw [remove] at h
  split at h
  · rename_i text he
    exact ⟨ne_nil_of_not_folder (by rw [he]; simp), ⟨text, he⟩, (Except.ok.inj h).symm⟩
  · cases h
  · cases h

end Disk

namespace Store

theorem name_inj {folder : Path} {a b : String} (h : folder ++ [a] = folder ++ [b]) : a = b := by
  simpa using h

theorem documentPath_injective {a b : String} (h : documentPath a = documentPath b) : a = b := by
  have hn := congrArg String.toList (name_inj h)
  simp only [String.toList_append] at hn
  exact String.toList_inj.mp (List.append_cancel_right hn)

/-- The last characters differ. -/
theorem aside_ne_documentPath (front loginId : String) :
    membersFolder ++ [front ++ ".tmp"] ≠ documentPath loginId := by
  intro h
  have hn := congrArg (fun name : String => name.toList.getLast?) (name_inj h)
  have hd : ".tmp".toList.getLast? = some 'p' := by decide
  have hj : ".json".toList.getLast? = some 'n' := by decide
  simp [String.toList_append, List.getLast?_append, hd, hj, -String.reduceToList] at hn

theorem temporaryPath_ne_documentPath (n : Nat) (loginId : String) :
    temporaryPath n ≠ documentPath loginId :=
  aside_ne_documentPath _ loginId

theorem reservationPath_ne_documentPath (e : Email) (loginId : String) :
    reservationPath e ≠ documentPath loginId := by
  simp [reservationPath, documentPath, emailFolder, membersFolder]

end Store

end MemberAuth
