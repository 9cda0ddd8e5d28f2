import MemberAuth.Proofs.Store.Frame
import MemberAuth.Proofs.Store.Roster

/-!
# One operation at a time

What each operation of the store does to a disk that holds the documents and the reservations of a
map of members and no temporary file: the answer is that of the map, and afterwards the disk holds
the files of the map that results.
-/
namespace MemberAuth.Store

/-- The files are those of the members of a map. -/
structure Catalog.Bears (c : Catalog) (members : Std.ExtTreeMap String Member) : Prop where
  documents : ∀ loginId, c.documents loginId = members[loginId]?
  reservations : ∀ key loginId, c.reservations key = some loginId ↔
    ∃ m : Member, members[loginId]? = some m ∧ emailKey m.email = key
  temporaries : ∀ n, c.temporaries n = none

/-- The store holds the members of a map, and goes on with the id after its last one. -/
structure Shelf.Keeps (s : Shelf) (r : Roster) : Prop where
  disk : ∃ c : Catalog, Holds s.disk c.contents ∧ c.Bears r.members
  nextId : s.nextId = r.lastId + 1
  own : ∀ (loginId : String) (m : Member), r.members[loginId]? = some m →
    m.loginId = loginId ∧ LoginId.check loginId = .ok ()

section Steps

variable {s : Shelf} {v : Contents}

theorem update_none {x : Site} (absent : v x = none) : Function.update v x none = v :=
  Function.update_eq_self_iff.mpr absent.symm

theorem run_writeAside (h : Holds s.disk v) (text : String) :
    ∃ disk, (writeAside text).run Shelf.perform s =
        (⟨disk, s.nextId, s.freshCount + 1⟩, .ok (temporaryPath s.freshCount)) ∧
      Holds disk (Function.update v (.temporary s.freshCount) (some text)) := by
  obtain ⟨disk, written, holds⟩ := h.write (.temporary s.freshCount) text
  have written : s.disk.write (temporaryPath s.freshCount) text = .ok disk := written
  refine ⟨disk, ?_, holds⟩
  rw [writeAside, Script.run_bind, Script.run_bind]
  simp only [FileScript.freshPath, FileScript.write, Script.run_ask, Shelf.perform, Shelf.after,
    written]
  rfl

/-- A temporary file that is gone again leaves no trace in the table. -/
theorem update_aside {t x : Site} (apart : x ≠ t) (idle : v t = none) (aside here : Option String) :
    Function.update (Function.update (Function.update v t aside) x here) t none =
      Function.update v x here := by
  have still : Function.update v x here t = none := by
    rw [Function.update_of_ne apart.symm, idle]
  calc Function.update (Function.update (Function.update v t aside) x here) t none
      = Function.update (Function.update (Function.update v x here) t aside) t none := by
        rw [Function.update_comm apart.symm aside here v]
    _ = Function.update (Function.update v x here) t none := Function.update_idem ..
    _ = Function.update v x here := update_none still

theorem run_createExclusive (h : Holds s.disk v) (idle : v (.temporary s.freshCount) = none)
    {x : Site} (apart : x ≠ .temporary s.freshCount) (free : v x = none) (text : String) :
    ∃ disk, (createExclusive x.path text).run Shelf.perform s =
        (⟨disk, s.nextId, s.freshCount + 1⟩, .ok (.ok ())) ∧
      Holds disk (Function.update v x (some text)) := by
  obtain ⟨disk, written, holds⟩ := run_writeAside h text
  have aside : Function.update v (.temporary s.freshCount) (some text) (.temporary s.freshCount) =
      some text := Function.update_self ..
  have still : Function.update v (.temporary s.freshCount) (some text) x = none := by
    rw [Function.update_of_ne apart, free]
  obtain ⟨disk', linked, holds'⟩ := holds.link aside still
  obtain ⟨disk'', removed, holds''⟩ := holds'.remove (x := .temporary s.freshCount)
    ((Function.update_of_ne apart.symm ..).trans aside)
  have linked : disk.link (temporaryPath s.freshCount) x.path = .ok disk' := linked
  have removed : disk'.remove (temporaryPath s.freshCount) = .ok disk'' := removed
  refine ⟨disk'', ?_, update_aside apart idle (some text) (some text) ▸ holds''⟩
  rw [createExclusive, Script.run_bind, written]
  simp only [FileScript.link, removeQuietly, FileScript.remove, Script.run_bind, Script.run_ask,
    Shelf.perform, Shelf.after, linked, removed]
  rfl

/-- Nothing is put in place of what is there. -/
theorem run_createExclusive_taken (h : Holds s.disk v) (idle : v (.temporary s.freshCount) = none)
    {x : Site} {other : String} (taken : v x = some other) (text : String) :
    ∃ disk, (createExclusive x.path text).run Shelf.perform s =
        (⟨disk, s.nextId, s.freshCount + 1⟩, .ok (.error .alreadyExists)) ∧
      Holds disk v := by
  have apart : x ≠ .temporary s.freshCount := by
    rintro rfl
    rw [idle] at taken
    cases taken
  obtain ⟨disk, written, holds⟩ := run_writeAside h text
  have aside : Function.update v (.temporary s.freshCount) (some text) (.temporary s.freshCount) =
      some text := Function.update_self ..
  have still : Function.update v (.temporary s.freshCount) (some text) x = some other := by
    rw [Function.update_of_ne apart, taken]
  have refused := holds.link_taken aside still
  obtain ⟨disk', removed, holds'⟩ := holds.remove aside
  have refused : disk.link (temporaryPath s.freshCount) x.path = .error .alreadyExists := refused
  have removed : disk.remove (temporaryPath s.freshCount) = .ok disk' := removed
  rw [Function.update_idem, update_none idle] at holds'
  refine ⟨disk', ?_, holds'⟩
  rw [createExclusive, Script.run_bind, written]
  simp only [FileScript.link, removeQuietly, FileScript.remove, Script.run_bind, Script.run_ask,
    Shelf.perform, Shelf.after, refused, removed]
  rfl

/-- How a registration goes on with the address reserved. -/
def publishing (reservation : Path) (member : Member) : FileScript (Except Failure Member) := do
  let created ← createExclusive (documentPath member.loginId) member.document
  match creationResult member.loginId created with
  | .ok () => pure (.ok member)
  | .error e =>
    removeQuietly reservation
    pure (.error e)

variable {m : NewMember}

theorem run_insert_reserved (h : Holds s.disk v) (idle : v (.temporary s.freshCount) = none)
    {owner : String} (reserved : v (.reservation m.email.key) = some owner) :
    ∃ disk, (insert m).run Shelf.perform s =
        (⟨disk, s.nextId + 1, s.freshCount + 1⟩, .error (.duplicateMember m.email.text)) ∧
      Holds disk v := by
  obtain ⟨disk, refused, holds⟩ := run_createExclusive_taken
    (s := { s with nextId := s.nextId + 1 }) h idle (x := .reservation m.email.key) reserved
    m.loginId.text
  have refused : (createExclusive (reservationPath m.email) (m.withId s.nextId).loginId).run
      Shelf.perform { s with nextId := s.nextId + 1 } =
        (⟨disk, s.nextId + 1, s.freshCount + 1⟩, .ok (.error .alreadyExists)) := refused
  refine ⟨disk, ?_, holds⟩
  rw [insert, Script.run_bind, FileScript.takeId, Script.run_ask]
  simp only [Shelf.perform, Script.run_bind, refused]
  rfl

theorem run_insert_unreserved (h : Holds s.disk v) (idle : v (.temporary s.freshCount) = none)
    (unreserved : v (.reservation m.email.key) = none) :
    ∃ disk, (insert m).run Shelf.perform s =
        (publishing (reservationPath m.email) (m.withId s.nextId)).run Shelf.perform
          ⟨disk, s.nextId + 1, s.freshCount + 1⟩ ∧
      Holds disk (Function.update v (.reservation m.email.key) (some m.loginId.text)) := by
  obtain ⟨disk, reserved, holds⟩ := run_createExclusive (s := { s with nextId := s.nextId + 1 }) h
    idle (x := .reservation m.email.key) (by simp) unreserved m.loginId.text
  have reserved : (createExclusive (reservationPath m.email) (m.withId s.nextId).loginId).run
      Shelf.perform { s with nextId := s.nextId + 1 } =
        (⟨disk, s.nextId + 1, s.freshCount + 1⟩, .ok (.ok ())) := reserved
  refine ⟨disk, ?_, holds⟩
  rw [insert, Script.run_bind, FileScript.takeId, Script.run_ask]
  simp only [Shelf.perform, Script.run_bind, reserved]
  rfl

/-- The reservation of an address whose registration ends without a document is given back. -/
theorem run_insert_present (h : Holds s.disk v)
    (idle : ∀ k, s.freshCount ≤ k → v (.temporary k) = none)
    (unreserved : v (.reservation m.email.key) = none) {text : String}
    (present : v (.document m.loginId.text) = some text) :
    ∃ disk, (insert m).run Shelf.perform s =
        (⟨disk, s.nextId + 1, s.freshCount + 1 + 1⟩,
          .error (.duplicateMember m.loginId.text)) ∧
      Holds disk v := by
  obtain ⟨disk, ran, holds⟩ := run_insert_unreserved h (idle _ (Nat.le_refl _)) unreserved
  have still : Function.update v (.reservation m.email.key) (some m.loginId.text)
      (.temporary (s.freshCount + 1)) = none := by
    rw [Function.update_of_ne (by simp), idle _ (Nat.le_succ _)]
  obtain ⟨disk', refused, holds'⟩ := run_createExclusive_taken
    (s := ⟨disk, s.nextId + 1, s.freshCount + 1⟩) holds still (x := .document m.loginId.text)
    ((Function.update_of_ne (by simp) ..).trans present) (m.withId s.nextId).document
  obtain ⟨disk'', released, holds''⟩ := holds'.remove (x := .reservation m.email.key)
    (Function.update_self ..)
  rw [Function.update_idem, update_none unreserved] at holds''
  have refused : (createExclusive (documentPath (m.withId s.nextId).loginId)
      (m.withId s.nextId).document).run Shelf.perform ⟨disk, s.nextId + 1, s.freshCount + 1⟩ =
        (⟨disk', s.nextId + 1, s.freshCount + 1 + 1⟩, .ok (.error .alreadyExists)) := refused
  have released : disk'.remove (reservationPath m.email) = .ok disk'' := released
  refine ⟨disk'', ?_, holds''⟩
  rw [ran, publishing, Script.run_bind, refused]
  simp only [creationResult, removeQuietly, FileScript.remove, Script.run_bind, Script.run_ask,
    Shelf.perform, Shelf.after, released]
  rfl

/-- A member with an address and a login id that are free gets both. -/
theorem run_insert_free (h : Holds s.disk v)
    (idle : ∀ k, s.freshCount ≤ k → v (.temporary k) = none)
    (unreserved : v (.reservation m.email.key) = none)
    (vacant : v (.document m.loginId.text) = none) :
    ∃ disk, (insert m).run Shelf.perform s =
        (⟨disk, s.nextId + 1, s.freshCount + 1 + 1⟩, .ok (m.withId s.nextId)) ∧
      Holds disk (Function.update
        (Function.update v (.reservation m.email.key) (some m.loginId.text))
        (.document m.loginId.text) (some (m.withId s.nextId).document)) := by
  obtain ⟨disk, ran, holds⟩ := run_insert_unreserved h (idle _ (Nat.le_refl _)) unreserved
  have still : Function.update v (.reservation m.email.key) (some m.loginId.text)
      (.temporary (s.freshCount + 1)) = none := by
    rw [Function.update_of_ne (by simp), idle _ (Nat.le_succ _)]
  obtain ⟨disk', published, holds'⟩ := run_createExclusive
    (s := ⟨disk, s.nextId + 1, s.freshCount + 1⟩) holds still (x := .document m.loginId.text)
    (by simp) ((Function.update_of_ne (by simp) ..).trans vacant) (m.withId s.nextId).document
  have published : (createExclusive (documentPath (m.withId s.nextId).loginId)
      (m.withId s.nextId).document).run Shelf.perform ⟨disk, s.nextId + 1, s.freshCount + 1⟩ =
        (⟨disk', s.nextId + 1, s.freshCount + 1 + 1⟩, .ok (.ok ())) := published
  refine ⟨disk', ?_, holds'⟩
  rw [ran, publishing, Script.run_bind, published]
  rfl

end Steps

namespace Catalog.Bears

variable {c : Catalog} {members : Std.ExtTreeMap String Member}

theorem hasEmail_eq_false {r : Roster} (h : c.Bears r.members) {email : String} :
    r.hasEmail email = false ↔ c.reservations (emailKey email) = none := by
  rw [Bool.eq_false_iff, Ne, Roster.hasEmail_iff, Option.eq_none_iff_forall_ne_some]
  simp only [Ne, h.reservations, not_exists]

theorem idle (h : c.Bears members) (n : Nat) : c.contents (.temporary n) = none :=
  h.temporaries n

theorem contents_document (h : c.Bears members) (loginId : String) :
    c.contents (.document loginId) = members[loginId]?.map Member.document :=
  congrArg (Option.map Member.document) (h.documents loginId)

/-- A new member brings a document and a reservation. -/
theorem insert (h : c.Bears members) {m : Member}
    (unused : c.reservations (emailKey m.email) = none) (free : members[m.loginId]? = none) :
    Catalog.Bears
      { c with
        documents := Function.update c.documents m.loginId (some m)
        reservations := Function.update c.reservations (emailKey m.email) (some m.loginId) }
      (members.insert m.loginId m) := by
  refine ⟨fun loginId => ?_, fun key loginId => ?_, h.temporaries⟩
  · dsimp only
    rw [Roster.getElem?_insert, Function.update_apply, h.documents]
    simp only [eq_comm]
  · have none_under : ∀ n : Member, members[loginId]? = some n →
        emailKey n.email ≠ emailKey m.email := by
      intro n hn same
      have reserved := (h.reservations _ loginId).mpr ⟨n, hn, same⟩
      rw [unused] at reserved
      cases reserved
    rw [Roster.getElem?_insert]
    dsimp only
    by_cases same : key = emailKey m.email
    · subst same
      rw [Function.update_self]
      split
      · rename_i own
        exact ⟨fun _ => ⟨m, rfl, rfl⟩, fun _ => congrArg some own⟩
      · rename_i other
        refine ⟨fun he => absurd (Option.some.inj he) other, ?_⟩
        rintro ⟨n, hn, key⟩
        exact absurd key (none_under n hn)
    · rw [Function.update_of_ne same, h.reservations]
      split
      · rename_i own
        subst own
        constructor
        · rintro ⟨n, hn, _⟩
          rw [free] at hn
          cases hn
        · rintro ⟨n, hn, rfl⟩
          cases hn
          exact absurd rfl same
      · exact Iff.rfl

/-- A new password hash changes the document only. -/
theorem rehash (h : c.Bears members) {loginId : String} {m : Member}
    (present : members[loginId]? = some m) (passwordHash : String) :
    Catalog.Bears
      { c with
        documents := Function.update c.documents loginId (some { m with passwordHash }) }
      (members.insert loginId { m with passwordHash }) := by
  refine ⟨fun other => ?_, fun key other => ?_, h.temporaries⟩
  · dsimp only
    rw [Roster.getElem?_insert, Function.update_apply, h.documents]
    simp only [eq_comm]
  · rw [h.reservations, Roster.getElem?_insert]
    split
    · rename_i same
      subst same
      rw [present]
      constructor
      · rintro ⟨n, hn, rfl⟩
        cases hn
        exact ⟨_, rfl, rfl⟩
      · rintro ⟨n, hn, rfl⟩
        cases hn
        exact ⟨m, rfl, rfl⟩
    · exact Iff.rfl

end Catalog.Bears

namespace Shelf.Keeps

variable {s : Shelf} {r : Roster}

theorem insert_used (h : s.Keeps r) {m : NewMember} (used : r.hasEmail m.email.text = true) :
    ((Store.insert m).run perform s).2 = .error (.duplicateMember m.email.text) ∧
      ((Store.insert m).run perform s).1.Keeps { r with lastId := r.lastId + 1 } := by
  obtain ⟨c, holds, bears⟩ := h.disk
  obtain ⟨owner, taken⟩ : ∃ owner, c.reservations m.email.key = some owner := by
    rw [← Option.ne_none_iff_exists']
    intro unused
    rw [bears.hasEmail_eq_false.mpr unused] at used
    cases used
  obtain ⟨disk, ran, holds'⟩ := run_insert_reserved holds (bears.idle s.freshCount) taken
  rw [ran]
  exact ⟨rfl, ⟨c, holds', bears⟩, congrArg (· + 1) h.nextId, h.own⟩

theorem insert_present (h : s.Keeps r) {m : NewMember} (unused : r.hasEmail m.email.text = false)
    {old : Member} (present : r.members[m.loginId.text]? = some old) :
    ((Store.insert m).run perform s).2 = .error (.duplicateMember m.loginId.text) ∧
      ((Store.insert m).run perform s).1.Keeps { r with lastId := r.lastId + 1 } := by
  obtain ⟨c, holds, bears⟩ := h.disk
  have site : c.contents (.document m.loginId.text) = some old.document := by
    rw [bears.contents_document, present]
    rfl
  obtain ⟨disk, ran, holds'⟩ := run_insert_present holds (fun k _ => bears.idle k)
    (bears.hasEmail_eq_false.mp unused) site
  rw [ran]
  exact ⟨rfl, ⟨c, holds', bears⟩, congrArg (· + 1) h.nextId, h.own⟩

theorem insert_free (h : s.Keeps r) {m : NewMember} (unused : r.hasEmail m.email.text = false)
    (absent : r.members[m.loginId.text]? = none) :
    ((Store.insert m).run perform s).2 = .ok (m.withId (r.lastId + 1)) ∧
      ((Store.insert m).run perform s).1.Keeps
        ⟨r.members.insert m.loginId.text (m.withId (r.lastId + 1)), r.lastId + 1⟩ := by
  obtain ⟨c, holds, bears⟩ := h.disk
  have unreserved := bears.hasEmail_eq_false.mp unused
  have site : c.contents (.document m.loginId.text) = none := by
    rw [bears.contents_document, absent]
    rfl
  obtain ⟨disk, ran, holds'⟩ := run_insert_free holds (fun k _ => bears.idle k) unreserved site
  rw [← Catalog.contents_reservation, ← Catalog.contents_document] at holds'
  rw [ran, ← h.nextId]
  refine ⟨rfl, ⟨_, holds', bears.insert (m := m.withId s.nextId) unreserved absent⟩, rfl, ?_⟩
  intro loginId n hn
  rw [Roster.getElem?_insert] at hn
  split at hn
  · rename_i same
    cases hn
    exact ⟨same, same ▸ m.loginId.valid⟩
  · exact h.own loginId n hn

/-- A registration does on the disk what it does on the map. -/
theorem insert (h : s.Keeps r) (m : NewMember) :
    ((Store.insert m).run perform s).2 = (r.insert m).2 ∧
      ((Store.insert m).run perform s).1.Keeps (r.insert m).1 := by
  rw [Roster.insert]
  split
  · rename_i used
    exact h.insert_used used
  rename_i unused
  have unused := Bool.eq_false_iff.mpr unused
  cases present : r.members[m.loginId.text]? with
  | some old => exact h.insert_present unused present
  | none => exact h.insert_free unused present

theorem find (h : s.Keeps r) (loginId : String) : s.find loginId = .ok r.members[loginId]? := by
  obtain ⟨c, holds, bears⟩ := h.disk
  have site := bears.contents_document loginId
  cases present : r.members[loginId]? with
  | some m =>
    rw [present] at site
    have valid := (h.own loginId m present).2
    have read := Disk.read_eq_ok.mp (holds.read (x := .document loginId) site)
    exact find_eq_some.mpr ⟨valid, m.document, read, Member.parse_document m⟩
  | none =>
    rw [present] at site
    have read : s.disk.read (documentPath loginId) = .error .notFound :=
      holds.read_none (x := .document loginId) site
    rw [Shelf.find, Store.find]
    split
    · rfl
    · rw [Script.run_bind]
      simp only [FileScript.read, Script.run_ask, perform, read]
      rfl

theorem hasEmail_iff (h : s.Keeps r) {email : String} :
    r.hasEmail email = true ↔
      ∃ owner m, s.find owner = .ok (some m) ∧ emailKey m.email = emailKey email := by
  simp only [Roster.hasEmail_iff, h.find, Except.ok.injEq]

/-- A change of password does on the disk what it does on the map. -/
theorem update (h : s.Keeps r) (loginId passwordHash : String) :
    ((Store.update loginId passwordHash).run perform s).2 = (r.update loginId passwordHash).2 ∧
      ((Store.update loginId passwordHash).run perform s).1.Keeps
        (r.update loginId passwordHash).1 := by
  rw [Store.update, Script.run_bind, run_find, h.find, Roster.update]
  cases present : r.members[loginId]? with
  | none => exact ⟨rfl, h⟩
  | some m =>
    obtain ⟨c, holds, bears⟩ := h.disk
    obtain ⟨own, valid⟩ := h.own loginId m present
    obtain ⟨disk, written, aside⟩ := run_writeAside holds { m with passwordHash }.document
    obtain ⟨disk', renamed, placed⟩ :=
      aside.rename (x := .temporary s.freshCount) (Function.update_self ..) (.document loginId)
    have renamed : disk.rename (temporaryPath s.freshCount) (documentPath loginId) = .ok disk' :=
      renamed
    rw [Function.update_idem, update_none (bears.idle s.freshCount),
      ← Catalog.contents_document] at placed
    dsimp only
    rw [Script.run_bind, written]
    simp only [FileScript.rename, Script.run_bind, Script.run_ask, perform, after, renamed]
    refine ⟨rfl, ⟨_, placed, bears.rehash present passwordHash⟩, h.nextId, fun other n hn => ?_⟩
    rw [Roster.getElem?_insert] at hn
    split at hn
    · rename_i same
      cases hn
      exact ⟨own.trans same, same ▸ valid⟩
    · exact h.own other n hn

end Shelf.Keeps

end MemberAuth.Store
