import MemberAuth.Proofs.Member.Wire
import MemberAuth.Proofs.Store.Entries
import MemberAuth.Store.Members

/-!
# What the operations of the store leave alone

A script spares a path if none of its calls writes, renames or removes what lies there; linking is
let through, as it never replaces anything. Registrations and password changes spare the documents
of all other members, and a change that fails spares its own; one that succeeds changes nothing but
the hash. Nothing is assumed about the disk.
-/
namespace MemberAuth.Store

/-- The paths at which a step may change what is there. -/
def FileCall.replaces : FileCall → List Path
  | .write p _ => [p]
  | .rename source target => [source, target]
  | .remove p => [p]
  | _ => []

/-- No call replaces the entry at the path, whatever the replies are. -/
inductive Spares (q : Path) {α : Type} : FileScript α → Prop
  | done (a : α) : Spares q (.done a)
  | call (c : FileCall) (next : c.Reply → FileScript α) (here : q ∉ c.replaces)
      (later : ∀ s : Shelf, Spares q (next (s.perform c).2)) : Spares q (.call c next)

namespace Shelf

theorem perform_keeps {s : Shelf} {c : FileCall} {q : Path} {e : Entry}
    (h : s.disk.entry? q = some e) (hq : q ∉ c.replaces) :
    Disk.entry? (s.perform c).1.disk q = some e := by
  cases c with
  | freshPath => exact h
  | takeId => exact h
  | read p => exact h
  | write p text =>
    simp only [perform, after]
    split
    · rename_i d hd
      obtain ⟨hp, rfl⟩ := Disk.write_ok hd
      rw [Disk.entry?_set _ hp, if_neg, h]
      rintro rfl
      exact hq (List.mem_singleton_self _)
    · exact h
  | link source target =>
    simp only [perform, after]
    split
    · rename_i d hd
      obtain ⟨hp, absent, text, _, rfl⟩ := Disk.link_ok hd
      rw [Disk.entry?_set _ hp, if_neg, h]
      rintro rfl
      rw [absent] at h
      cases h
    · exact h
  | rename source target =>
    simp only [FileCall.replaces, List.mem_cons, List.not_mem_nil, or_false, not_or] at hq
    simp only [perform, after]
    split
    · rename_i d hd
      obtain ⟨hp, text, hs, rfl⟩ := Disk.rename_ok hd
      have hsource : source ≠ [] := Disk.ne_nil_of_not_folder (d := s.disk) (by rw [hs]; simp)
      rw [Disk.entry?_set _ hp, if_neg (fun he => hq.2 he.symm), Disk.entry?_erase _ hsource,
        if_neg (fun he => hq.1 he.symm), h]
    · exact h
  | remove p =>
    simp only [perform, after]
    split
    · rename_i d hd
      obtain ⟨hp, _, rfl⟩ := Disk.remove_ok hd
      rw [Disk.entry?_erase _ hp, if_neg, h]
      rintro rfl
      exact hq (List.mem_singleton_self _)
    · exact h

end Shelf

namespace Spares

variable {q : Path} {α β : Type}

theorem run {script : FileScript α} (h : Spares q script) {s : Shelf} {e : Entry}
    (he : s.disk.entry? q = some e) :
    Disk.entry? (script.run Shelf.perform s).1.disk q = some e := by
  induction h generalizing s with
  | done a => exact he
  | call c next here later ih => exact ih s (Shelf.perform_keeps he here)

theorem bind {x : FileScript α} {f : α → FileScript β} (hx : Spares q x)
    (hf : ∀ a, Spares q (f a)) : Spares q (x >>= f) := by
  induction hx with
  | done a => exact hf a
  | call c next here later ih => exact .call c _ here ih

theorem ask {c : FileCall} (h : q ∉ c.replaces) : Spares q (.ask c : FileScript c.Reply) :=
  .call c _ h fun _ => .done _

theorem pure (a : α) : Spares q (pure a : FileScript α) :=
  .done a

end Spares

theorem spares_removeQuietly {p q : Path} (h : q ≠ p) : Spares q (removeQuietly p) :=
  (Spares.ask (by simpa [FileCall.replaces] using h)).bind fun _ => .pure _

theorem spares_find (q : Path) (loginId : String) : Spares q (find loginId) := by
  rw [find]
  split
  · exact .pure _
  refine (Spares.ask (by simp [FileCall.replaces])).bind fun r => ?_
  split
  · exact .pure _
  · exact .pure _
  split <;> exact .pure _

/-- A fresh path is one of the temporary paths. -/
theorem spares_freshPath {q : Path} {α : Type} {f : Path → FileScript α}
    (hf : ∀ n, Spares q (f (temporaryPath n))) : Spares q (FileScript.freshPath >>= f) :=
  .call .freshPath _ (by simp [FileCall.replaces]) fun s => hf s.freshCount

section temporary

variable {q : Path} (hq : ∀ n, q ≠ temporaryPath n)
include hq

/-- Where a text is written aside, what follows is given a temporary path or a failure. -/
theorem spares_writeAside_bind {α : Type} {text : String}
    {f : Except Failure Path → FileScript α} (written : ∀ n, Spares q (f (.ok (temporaryPath n))))
    (failed : ∀ e, Spares q (f (.error e))) : Spares q (writeAside text >>= f) := by
  refine spares_freshPath fun n => ?_
  refine .call (.write (temporaryPath n) text) _ (by simpa [FileCall.replaces] using hq n)
    fun s => ?_
  cases (s.perform (.write (temporaryPath n) text)).2 with
  | ok u => exact written n
  | error e => exact (spares_removeQuietly (hq n)).bind fun _ => failed ioFailure

theorem spares_writeAside (text : String) : Spares q (writeAside text) := by
  rw [← Script.bind_pure (writeAside text)]
  exact spares_writeAside_bind hq (fun _ => .pure _) fun _ => .pure _

theorem spares_createExclusive (target : Path) (text : String) :
    Spares q (createExclusive target text) := by
  refine spares_writeAside_bind hq (fun n => ?_) fun e => .pure _
  refine (Spares.ask (by simp [FileCall.replaces])).bind fun linked => ?_
  exact (spares_removeQuietly (hq n)).bind fun _ => .pure _

end temporary

/-- A registration only adds documents: it replaces none, not even one under its own login id. -/
theorem spares_insert (loginId : String) (m : NewMember) :
    Spares (documentPath loginId) (insert m) := by
  have temporary n := (temporaryPath_ne_documentPath n loginId).symm
  refine (Spares.ask (by simp [FileCall.replaces])).bind fun id => ?_
  refine (spares_createExclusive temporary _ _).bind fun r => ?_
  split
  · exact .pure _
  refine (spares_createExclusive temporary _ _).bind fun r => ?_
  split
  · exact .pure _
  · refine (spares_removeQuietly ?_).bind fun _ => .pure _
    exact (reservationPath_ne_documentPath m.email loginId).symm

/-- A password change replaces no document but its own. -/
theorem spares_update {loginId other : String} (hne : other ≠ loginId) (passwordHash : String) :
    Spares (documentPath other) (update loginId passwordHash) := by
  have temporary n := (temporaryPath_ne_documentPath n other).symm
  have target : documentPath other ≠ documentPath loginId :=
    fun h => hne (documentPath_injective h)
  rw [update]
  refine (spares_find _ _).bind fun r => ?_
  split
  · exact .pure _
  · exact .pure _
  refine spares_writeAside_bind temporary (fun n => ?_) fun e => .pure _
  refine (Spares.ask (by simpa [FileCall.replaces] using ⟨temporary n, target⟩)).bind fun r => ?_
  split
  · exact .pure _
  · exact (spares_removeQuietly (temporary n)).bind fun _ => .pure _

namespace Shelf

/-- What a look-up of a login id gives at present. -/
def find (s : Shelf) (loginId : String) : Except Failure (Option Member) :=
  ((Store.find loginId).run perform s).2

/-- A look-up changes nothing. -/
theorem run_find (s : Shelf) (loginId : String) :
    (Store.find loginId).run perform s = (s, s.find loginId) := by
  rw [find, Store.find]
  split
  · rfl
  · rw [Script.run_bind]
    split
    · rfl
    · rfl
    · split <;> rfl

theorem find_eq_some {s : Shelf} {loginId : String} {m : Member} :
    s.find loginId = .ok (some m) ↔ LoginId.check loginId = .ok () ∧
      ∃ text, s.disk.entry? (documentPath loginId) = some (.file text) ∧
        Member.parse text = .ok m := by
  rw [find, Store.find]
  split
  · rename_i e he
    simp [he]
  · rename_i hc
    rw [Script.run_bind]
    simp only [hc, true_and, FileScript.read, Script.run_ask, perform, ← Disk.read_eq_ok]
    split
    · rename_i hr
      simp [hr]
    · rename_i hr
      simp [hr]
    · rename_i text hr
      split
      · rename_i found hp
        simp [hr, hp]
      · rename_i hp
        simp [hr, hp]

theorem find_of_document {s : Shelf} {loginId : String} {m : Member}
    (valid : LoginId.check loginId = .ok ())
    (placed : s.disk.entry? (documentPath loginId) = some (.file m.document)) :
    s.find loginId = .ok (some m) :=
  find_eq_some.mpr ⟨valid, m.document, placed, m.parse_document⟩

/-- A stored member stays stored as long as its document is spared. -/
theorem find_of_spares {α : Type} {script : FileScript α} {s : Shelf} {loginId : String}
    {m : Member} (h : Spares (documentPath loginId) script)
    (stored : s.find loginId = .ok (some m)) :
    (script.run perform s).1.find loginId = .ok (some m) := by
  obtain ⟨hc, text, he, hp⟩ := find_eq_some.mp stored
  exact find_eq_some.mpr ⟨hc, text, h.run he, hp⟩

/-- A text is written aside at the next temporary path. -/
theorem run_writeAside_eq_ok {s : Shelf} {text : String} {temp : Path}
    (h : ((writeAside text).run perform s).2 = .ok temp) : temp = temporaryPath s.freshCount := by
  rw [writeAside, Script.run_bind, Script.run_bind] at h
  split at h
  · exact (Except.ok.inj h).symm
  · cases h

/-- A password change that fails leaves the stored member as it was. -/
theorem find_of_update_error {s : Shelf} {loginId passwordHash : String} {m : Member} {e : Failure}
    (stored : s.find loginId = .ok (some m))
    (failed : ((update loginId passwordHash).run perform s).2 = .error e) :
    ((update loginId passwordHash).run perform s).1.find loginId = .ok (some m) := by
  have temporary n := (temporaryPath_ne_documentPath n loginId).symm
  have aside := find_of_spares (spares_writeAside temporary { m with passwordHash }.document) stored
  have place : ∀ temp,
      ((writeAside { m with passwordHash }.document).run perform s).2 = .ok temp →
        temp = temporaryPath s.freshCount := fun _ => run_writeAside_eq_ok
  rw [update, Script.run_bind, run_find, stored] at failed ⊢
  dsimp only at failed ⊢
  rw [Script.run_bind] at failed ⊢
  generalize (writeAside { m with passwordHash }.document).run perform s = w
    at aside place failed ⊢
  obtain ⟨s', r⟩ := w
  cases r with
  | error e => exact aside
  | ok temp =>
    obtain rfl := place temp rfl
    dsimp only at aside failed ⊢
    rw [Script.run_bind] at failed ⊢
    simp only [FileScript.rename, Script.run_ask, perform] at failed ⊢
    cases hr : s'.disk.rename (temporaryPath s.freshCount) (documentPath loginId) with
    | ok d =>
      rw [hr] at failed
      cases failed
    | error f =>
      exact find_of_spares ((spares_removeQuietly (temporary _)).bind fun _ => .pure _) aside

/-- The text that was written aside lies at its path. -/
theorem entry_of_writeAside {s : Shelf} {text : String} {temp : Path}
    (h : ((writeAside text).run perform s).2 = .ok temp) :
    Disk.entry? ((writeAside text).run perform s).1.disk temp = some (.file text) := by
  have place := run_writeAside_eq_ok h
  subst place
  rw [writeAside, Script.run_bind, FileScript.freshPath, Script.run_ask, Script.run_bind] at h ⊢
  simp only [FileScript.write, Script.run_ask, perform] at h ⊢
  cases written : s.disk.write (temporaryPath s.freshCount) text with
  | error e =>
    rw [written] at h
    cases h
  | ok d =>
    obtain ⟨hp, rfl⟩ := Disk.write_ok written
    exact (Disk.entry?_set _ hp _ _).trans (if_pos rfl)

/-- A password change that succeeds finds the member, and puts the document with the new hash in
place. -/
theorem entry_of_update_ok {s : Shelf} {loginId passwordHash : String}
    (changed : ((update loginId passwordHash).run perform s).2 = .ok ()) :
    ∃ m, s.find loginId = .ok (some m) ∧
      Disk.entry? ((update loginId passwordHash).run perform s).1.disk (documentPath loginId) =
        some (.file { m with passwordHash }.document) := by
  rw [update, Script.run_bind, run_find] at changed ⊢
  match found : s.find loginId with
  | .error e =>
    rw [found] at changed
    cases changed
  | .ok none =>
    rw [found] at changed
    cases changed
  | .ok (some m) =>
    refine ⟨m, rfl, ?_⟩
    rw [found] at changed
    dsimp only at changed ⊢
    have aside : ∀ temp,
        ((writeAside { m with passwordHash }.document).run perform s).2 = .ok temp →
          Disk.entry? ((writeAside { m with passwordHash }.document).run perform s).1.disk temp =
            some (.file { m with passwordHash }.document) := fun _ => entry_of_writeAside
    rw [Script.run_bind] at changed ⊢
    generalize (writeAside { m with passwordHash }.document).run perform s = w at aside changed ⊢
    obtain ⟨s', e | temp⟩ := w
    · cases changed
    dsimp only at aside changed ⊢
    rw [Script.run_bind] at changed ⊢
    simp only [FileScript.rename, Script.run_ask, perform] at changed ⊢
    cases renamed : s'.disk.rename temp (documentPath loginId) with
    | error e =>
      rw [renamed] at changed
      cases changed
    | ok d =>
      obtain ⟨hp, text, there, rfl⟩ := Disk.rename_ok renamed
      rw [aside temp rfl] at there
      cases there
      exact (Disk.entry?_set (s'.disk.erase temp) hp
        (.file { m with passwordHash }.document) (documentPath loginId)).trans (if_pos rfl)

/-- A password change that succeeds finds the member, and leaves it with the new hash. -/
theorem find_of_update_ok {s : Shelf} {loginId passwordHash : String}
    (changed : ((update loginId passwordHash).run perform s).2 = .ok ()) :
    ∃ m, s.find loginId = .ok (some m) ∧
      ((update loginId passwordHash).run perform s).1.find loginId =
        .ok (some { m with passwordHash }) := by
  obtain ⟨m, found, placed⟩ := entry_of_update_ok changed
  exact ⟨m, found, find_of_document (find_eq_some.mp found).1 placed⟩

end Shelf

end MemberAuth.Store
