import MemberAuth.Proofs.Store.Asking
import MemberAuth.Proofs.Store.Names
import MemberAuth.Proofs.Store.Scan

/-!
# Where the store may go on the disk

Whatever text a store is asked about, its file steps name documents of accepted login ids,
reservations of accepted addresses and files that are written aside, and no text that is refused
gets as far as a file step. These files lie directly in one of two folders and meet only when they
are meant to: documents of one login id, and reservations of addresses that differ in case. Opening
a store reads none but the documents.
-/
namespace MemberAuth.Store

open Text

/-- The paths that a file step names. -/
def FileCall.paths : FileCall → List Path
  | .write p _ | .remove p | .read p => [p]
  | .link source target | .rename source target => [source, target]
  | .freshPath | .takeId => []

/-- Every path that a step names is such a path, if fresh paths are ones for writing aside. -/
def Within (allowed : Path → Prop) {α : Type} (x : FileScript α) : Prop :=
  Asks IsTemporary (fun c => ∀ p ∈ c.paths, allowed p) x

section Scripts

variable {aside allowed wider : Path → Prop} {α : Type} {c : FileCall} {p : Path}

theorem Within.mono {x : FileScript α} (h : Within allowed x)
    (more : ∀ p, allowed p → wider p) : Within wider x :=
  Asks.mono h fun _ named p there => more p (named p there)

theorem AsideStep.paths (step : AsideStep aside c) (named : p ∈ c.paths) : aside p := by
  cases step with
  | fresh => cases named
  | write own text => exact List.mem_singleton.mp named ▸ own
  | remove own => exact List.mem_singleton.mp named ▸ own

theorem CreateStep.paths {target : Path} (step : CreateStep aside target c)
    (named : p ∈ c.paths) : p = target ∨ aside p := by
  cases step with
  | aside step => exact Or.inr (step.paths named)
  | link own =>
    rcases List.mem_cons.mp named with rfl | last
    · exact Or.inr own
    · exact Or.inl (List.mem_singleton.mp last)

theorem InsertStep.paths {m : NewMember} (step : InsertStep aside m c) (named : p ∈ c.paths) :
    p = documentPath m.loginId.text ∨ p = reservationPath m.email ∨ aside p := by
  cases step with
  | reserve step => exact Or.inr (step.paths named)
  | publish step => exact (step.paths named).imp_right Or.inr
  | release => exact Or.inr (Or.inl (List.mem_singleton.mp named))

theorem FindStep.paths {loginId : String} (step : FindStep loginId c) (named : p ∈ c.paths) :
    p = documentPath loginId := by
  cases step with
  | read => exact List.mem_singleton.mp named

theorem UpdateStep.paths {loginId : String} (step : UpdateStep aside loginId c)
    (named : p ∈ c.paths) : p = documentPath loginId ∨ aside p := by
  cases step with
  | find step => exact Or.inl (step.paths named)
  | aside step => exact Or.inr (step.paths named)
  | rename own =>
    rcases List.mem_cons.mp named with rfl | last
    · exact Or.inr own
    · exact Or.inl (List.mem_singleton.mp last)

theorem within_find (loginId : String) :
    Within (fun p => LoginId.check loginId = .ok () ∧ p = documentPath loginId)
      (find loginId) :=
  (asks_find IsTemporary loginId).mono fun _ step _ named => ⟨step.1, step.2.paths named⟩

theorem within_update (loginId passwordHash : String) :
    Within (fun p => LoginId.check loginId = .ok () ∧ (p = documentPath loginId ∨ IsTemporary p))
      (update loginId passwordHash) :=
  (asks_update IsTemporary loginId passwordHash).mono fun _ step _ named =>
    ⟨step.1, step.2.paths named⟩

theorem within_insert (m : NewMember) :
    Within (fun p => p = documentPath m.loginId.text ∨ p = reservationPath m.email ∨ IsTemporary p)
      (insert m) := by
  obtain ⟨rest, first, steps⟩ := asks_insert IsTemporary m
  rw [first]
  exact Asks.ask (fun _ named => absurd named List.not_mem_nil) fun id =>
    (steps id).mono fun _ step _ named => step.paths named

end Scripts

section Places

variable {p : Path} {loginId : String}

theorem IsTemporary.ne_documentPath (h : IsTemporary p) (loginId : String) :
    p ≠ documentPath loginId := by
  obtain ⟨identifier, _, rfl⟩ := h
  exact aside_ne_documentPath _ loginId

theorem IsTemporary.ne_membersFolder (h : IsTemporary p) : p ≠ membersFolder := by
  obtain ⟨identifier, _, rfl⟩ := h
  simp [membersFolder]

/-- The last characters differ. -/
theorem IsTemporary.ne_emailFolder (h : IsTemporary p) : p ≠ emailFolder := by
  obtain ⟨identifier, _, rfl⟩ := h
  intro same
  have last := congrArg (fun p : Path => (p.getLastD "").toList.getLast?) same
  have hl : "by-email".toList.getLast? = some 'l' := by decide
  have ht : ".tmp".toList.getLast? = some 'p' := by decide
  simp [membersFolder, emailFolder, String.toList_append, List.getLast?_append, hl, ht,
    -String.reduceToList] at last

theorem membersFolder_plain : ∀ name ∈ membersFolder, '/' ∉ name.toList := by
  decide

theorem emailFolder_plain : ∀ name ∈ emailFolder, '/' ∉ name.toList := by
  decide

theorem written_documentPath_eq_iff (valid : LoginId.check loginId = .ok ())
    (h : DirectlyIn membersFolder p) :
    written (documentPath loginId) = written p ↔ documentPath loginId = p :=
  (documentPath_directlyIn valid).written_eq_iff h membersFolder_plain membersFolder_plain

theorem written_documentPath_ne_reservationPath (valid : LoginId.check loginId = .ok ())
    (e : Email) : written (documentPath loginId) ≠ written (reservationPath e) := by
  rw [Ne, (documentPath_directlyIn valid).written_eq_iff (reservationPath_directlyIn e)
    membersFolder_plain emailFolder_plain]
  exact (reservationPath_ne_documentPath e loginId).symm

end Places

/-- Opening a store does not look at reservations or at what is written aside. -/
theorem nextId_openOn_congr {d d' : Disk}
    (same : ∀ p, (∀ name, p ≠ emailFolder ++ [name]) → ¬ IsTemporary p →
      d.entry? p = d'.entry? p) (freshCount : Nat) :
    (openOn d freshCount).2.map Shelf.nextId = (openOn d' freshCount).2.map Shelf.nextId := by
  have members : d.entry? membersFolder = d'.entry? membersFolder :=
    same _ (by simp [membersFolder, emailFolder]) fun fresh => fresh.ne_membersFolder rfl
  have emails : d.entry? emailFolder = d'.entry? emailFolder :=
    same _ (by simp) fun fresh => fresh.ne_emailFolder rfl
  have files : documents d = documents d' := by
    refine documents_congr fun name ending => ?_
    obtain ⟨loginId, _, rfl⟩ := isDocumentName_iff.mp ending
    refine same _ ?_ fun fresh => fresh.ne_documentPath loginId rfl
    simp [membersFolder, emailFolder]
  rw [nextId_openOn, nextId_openOn, Disk.passable, Disk.passable, Disk.passable, Disk.passable,
    members, emails, firstId_congr files]

/-- Every path that a file step names is that of a document, a reservation or a file written aside,
and lies directly in the folder for these; a text that is no login id leads to no such path. Written
out, two documents have one path only if they have one login id, two reservations only if their
addresses are the same but for case, and a document has no path in common with a reservation, with
the folder of the reservations or with a file written aside. The last two kinds make no difference
to opening a store. -/
theorem paths_confined_and_apart :
    (∀ loginId, Within (fun p => LoginId.check loginId = .ok () ∧ p = documentPath loginId)
      (find loginId)) ∧
    (∀ loginId passwordHash, Within (fun p => LoginId.check loginId = .ok () ∧
      (p = documentPath loginId ∨ IsTemporary p)) (update loginId passwordHash)) ∧
    (∀ m, Within (fun p => p = documentPath m.loginId.text ∨ p = reservationPath m.email ∨
      IsTemporary p) (insert m)) ∧
    (∀ n < 16 ^ 12, IsTemporary (temporaryPath n)) ∧
    (∀ loginId, LoginId.check loginId = .ok () →
      DirectlyIn membersFolder (documentPath loginId)) ∧
    (∀ e, DirectlyIn emailFolder (reservationPath e)) ∧
    (∀ p, IsTemporary p → DirectlyIn membersFolder p) ∧
    (∀ a b : LoginId, written (documentPath a.text) = written (documentPath b.text) ↔ a = b) ∧
    (∀ a b : Email, written (reservationPath a) = written (reservationPath b) ↔
      SameButCase a.text b.text) ∧
    (∀ (a : LoginId) (e : Email) (p : Path), IsTemporary p →
      written (documentPath a.text) ≠ written (reservationPath e) ∧
      written (documentPath a.text) ≠ written emailFolder ∧
      written (documentPath a.text) ≠ written p) ∧
    ∀ d d' : Disk, (∀ p, (∀ name, p ≠ emailFolder ++ [name]) → ¬ IsTemporary p →
      d.entry? p = d'.entry? p) → ∀ freshCount,
      (openOn d freshCount).2.map Shelf.nextId = (openOn d' freshCount).2.map Shelf.nextId := by
  refine ⟨within_find, within_update, within_insert, fun n => isTemporary_temporaryPath,
    fun _ => documentPath_directlyIn, reservationPath_directlyIn, fun p fresh => fresh.directlyIn,
    ?documents, ?reservations, ?apart, fun d d' => nextId_openOn_congr⟩
  case documents =>
    intro a b
    rw [written_documentPath_eq_iff a.valid (documentPath_directlyIn b.valid)]
    constructor
    · intro same
      cases a
      cases b
      cases documentPath_injective same
      rfl
    · rintro rfl
      rfl
  case reservations =>
    intro a b
    rw [(reservationPath_directlyIn a).written_eq_iff (reservationPath_directlyIn b)
      emailFolder_plain emailFolder_plain, ← Email.key_eq_iff]
    constructor
    · exact name_inj
    · intro same
      rw [reservationPath, reservationPath, same]
  case apart =>
    intro a e p fresh
    refine ⟨written_documentPath_ne_reservationPath a.valid e, ?_, ?_⟩
    · rw [Ne, written_documentPath_eq_iff a.valid emailFolder_directlyIn]
      exact Site.path_ne_emailFolder (.document a.text)
    · rw [Ne, written_documentPath_eq_iff a.valid fresh.directlyIn]
      exact (fresh.ne_documentPath a.text).symm

/-- A text with separators is not looked for, and files that were left behind do not count. -/
theorem paths_confined_and_apart_beside_leftovers :
    Within (fun _ => False) (find "../secret") ∧
    LoginId.check "alice" = .ok () ∧ DirectlyIn membersFolder (documentPath "alice") ∧
    IsTemporary (temporaryPath 7) ∧ DirectlyIn membersFolder (temporaryPath 7) ∧
    (openOn ((Disk.empty.set (emailFolder ++ ["kim@example.com"]) (.file "alice")).set
      (temporaryPath 7) (.file "half of a document")) 8).2.map Shelf.nextId = .ok 1 := by
  obtain ⟨looks, _, _, drawn, documents, _, temporaries, _, _, _, opening⟩ :=
    paths_confined_and_apart
  have refused : LoginId.check "../secret" ≠ .ok () := by decide
  have accepted : LoginId.check "alice" = .ok () := by decide
  have fresh : IsTemporary (temporaryPath 7) := drawn 7 (by decide)
  refine ⟨?_, accepted, documents "alice" accepted, fresh, temporaries _ fresh, ?_⟩
  · exact (looks "../secret").mono fun p own => refused own.1
  · rw [opening _ Disk.empty]
    · rw [Workshop.openOn_empty]
      rfl
    · intro p outside aside
      have other : temporaryPath 7 ≠ p := by
        rintro rfl
        exact aside fresh
      rw [Disk.entry?_set _ (by simp [temporaryPath]), Disk.entry?_set _ (by simp), if_neg other,
        if_neg (outside _).symm]

end MemberAuth.Store
