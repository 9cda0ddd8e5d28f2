import MemberAuth.Proofs.Store.Sequential

/-!
# What becomes of the files

The map of members determines every file of a store that keeps it. So an operation that leaves the
map as it is leaves every file as it is, a new member brings its document and its reservation and
nothing else, and a new password hash changes one document in its hash only.
-/
namespace MemberAuth.Store

/-- Every path leads to what it led to before. -/
def SameFiles (d d' : Disk) : Prop :=
  ∀ q, d'.entry? q = d.entry? q

/-- The document and the reservation of a member are new, and all else is as it was. -/
structure Adds (d d' : Disk) (m : Member) : Prop where
  undocumented : d.entry? (documentPath m.loginId) = none
  unreserved : d.entry? (emailFolder ++ [emailKey m.email]) = none
  document : d'.entry? (documentPath m.loginId) = some (.file m.document)
  reservation : d'.entry? (emailFolder ++ [emailKey m.email]) = some (.file m.loginId)
  others : ∀ q, q ≠ documentPath m.loginId → q ≠ emailFolder ++ [emailKey m.email] →
    d'.entry? q = d.entry? q

/-- The document of a member has another hash in it, and all else is as it was. -/
structure Rehashes (d d' : Disk) (m : Member) (passwordHash : String) : Prop where
  before : d.entry? (documentPath m.loginId) = some (.file m.document)
  after : d'.entry? (documentPath m.loginId) = some (.file { m with passwordHash }.document)
  others : ∀ q, q ≠ documentPath m.loginId → d'.entry? q = d.entry? q

/-- Every document is that of a member, and stays up to its hash. -/
def KeepsMembers (d d' : Disk) : Prop :=
  ∀ loginId e, d.entry? (documentPath loginId) = some e → ∃ (m : Member) (passwordHash : String),
    m.loginId = loginId ∧ e = .file m.document ∧
      d'.entry? (documentPath loginId) = some (.file { m with passwordHash }.document)

section Tables

variable {d d' : Disk} {v v' : Contents}

/-- A path leads to the same in both if no site on it changes. -/
theorem Holds.entry?_eq (h : Holds d v) (h' : Holds d' v') {q : Path}
    (same : ∀ x : Site, q = x.path → v' x = v x) : d'.entry? q = d.entry? q := by
  by_cases root : q = []
  · subst root
    rfl
  by_cases members : q = membersFolder
  · rw [members, h.members, h'.members]
  by_cases emails : q = emailFolder
  · rw [emails, h.emails, h'.emails]
  by_cases site : ∃ x : Site, q = x.path
  · obtain ⟨x, rfl⟩ := site
    rw [h.sites, h'.sites, same x rfl]
  · have none : ∀ x : Site, q ≠ x.path := fun x hx => site ⟨x, hx⟩
    rw [h.others q root members emails none, h'.others q root members emails none]

theorem Holds.sameFiles (h : Holds d v) (h' : Holds d' v) : SameFiles d d' :=
  fun _ => h.entry?_eq h' fun _ _ => rfl

/-- Two sets of files of the same members are the same. -/
theorem Catalog.Bears.contents_eq {c c' : Catalog} {members : Std.ExtTreeMap String Member}
    (h : c.Bears members) (h' : c'.Bears members) : c'.contents = c.contents := by
  funext x
  cases x with
  | document loginId => rw [h.contents_document, h'.contents_document]
  | reservation key =>
    have same : ∀ loginId, c'.reservations key = some loginId ↔ c.reservations key = some loginId :=
      fun loginId => (h'.reservations key loginId).trans (h.reservations key loginId).symm
    exact Option.ext same
  | temporary n => rw [h.idle, h'.idle]

end Tables

namespace Shelf.Keeps

variable {s s' : Shelf} {r r' : Roster}

theorem entry?_document (h : s.Keeps r) (loginId : String) :
    s.disk.entry? (documentPath loginId) =
      (r.members[loginId]?.map Member.document).map Entry.file := by
  obtain ⟨c, holds, bears⟩ := h.disk
  rw [← bears.contents_document]
  exact holds.sites (.document loginId)

theorem sameFiles (h : s.Keeps r) (h' : s'.Keeps r') (same : r'.members = r.members) :
    SameFiles s.disk s'.disk := by
  obtain ⟨c, holds, bears⟩ := h.disk
  obtain ⟨c', holds', bears'⟩ := h'.disk
  rw [same] at bears'
  rw [bears.contents_eq bears'] at holds'
  exact holds.sameFiles holds'

/-- A member with an address that nobody has, under a login id that nobody has. -/
theorem adds (h : s.Keeps r) (h' : s'.Keeps r') {m : Member} (unused : r.hasEmail m.email = false)
    (free : r.members[m.loginId]? = none) (new : r'.members = r.members.insert m.loginId m) :
    Adds s.disk s'.disk m := by
  obtain ⟨c, holds, bears⟩ := h.disk
  obtain ⟨c', holds', bears'⟩ := h'.disk
  have unreserved := bears.hasEmail_eq_false.mp unused
  have both := bears.insert unreserved free
  rw [← new] at both
  rw [both.contents_eq bears', Catalog.contents_reservation (c := { c with documents := _ }),
    Catalog.contents_document] at holds'
  refine ⟨?_, ?_, ?_, ?_, fun q document reservation => holds.entry?_eq holds' ?_⟩
  · rw [h.entry?_document, free]
    rfl
  · exact (holds.sites (.reservation (emailKey m.email))).trans (congrArg _ unreserved)
  · rw [h'.entry?_document, new, Roster.getElem?_insert, if_pos rfl]
    rfl
  · rw [← Site.path, holds'.sites, Function.update_self]
    rfl
  · rintro x rfl
    rw [Function.update_of_ne, Function.update_of_ne]
    · rintro rfl
      exact document rfl
    · rintro rfl
      exact reservation rfl

theorem rehashes (h : s.Keeps r) {loginId : String} {m : Member} (passwordHash : String)
    (h' : s'.Keeps (r.update loginId passwordHash).1) (present : r.members[loginId]? = some m) :
    Rehashes s.disk s'.disk m passwordHash := by
  obtain ⟨c, holds, bears⟩ := h.disk
  obtain ⟨c', holds', bears'⟩ := h'.disk
  obtain ⟨rfl, _⟩ := h.own loginId m present
  have new : (r.update m.loginId passwordHash).1.members =
      r.members.insert m.loginId { m with passwordHash } := by
    rw [Roster.update, present]
  have one := bears.rehash present passwordHash
  rw [← new] at one
  rw [one.contents_eq bears', Catalog.contents_document] at holds'
  refine ⟨?_, ?_, fun q document => holds.entry?_eq holds' ?_⟩
  · rw [h.entry?_document, present]
    rfl
  · rw [h'.entry?_document, new, Roster.getElem?_insert, if_pos rfl]
    rfl
  · rintro x rfl
    rw [Function.update_of_ne]
    rintro rfl
    exact document rfl

/-- The documents are those of the members. -/
theorem of_entry?_document (h : s.Keeps r) {loginId : String} {e : Entry}
    (there : s.disk.entry? (documentPath loginId) = some e) :
    ∃ m : Member, m.loginId = loginId ∧ e = .file m.document := by
  rw [h.entry?_document, Option.map_map, Option.map_eq_some_iff] at there
  obtain ⟨m, stored, rfl⟩ := there
  exact ⟨m, (h.own loginId m stored).1, rfl⟩

variable {d : Disk}

theorem keepsMembers_of_sameFiles (h : s.Keeps r) (same : SameFiles s.disk d) :
    KeepsMembers s.disk d := by
  intro loginId e there
  obtain ⟨m, own, rfl⟩ := h.of_entry?_document there
  exact ⟨m, m.passwordHash, own, rfl, (same _).trans there⟩

theorem keepsMembers_of_adds (h : s.Keeps r) {new : Member} (adds : Adds s.disk d new) :
    KeepsMembers s.disk d := by
  intro loginId e there
  obtain ⟨m, own, rfl⟩ := h.of_entry?_document there
  refine ⟨m, m.passwordHash, own, rfl, (adds.others _ ?_ ?_).trans there⟩
  · intro same
    rw [same, adds.undocumented] at there
    cases there
  · intro same
    have sites : Site.document loginId = .reservation (emailKey new.email) :=
      Site.path_injective same
    cases sites

theorem keepsMembers_of_rehashes (h : s.Keeps r) {changed : Member} {passwordHash : String}
    (rehashes : Rehashes s.disk d changed passwordHash) : KeepsMembers s.disk d := by
  intro loginId e there
  obtain ⟨m, rfl, rfl⟩ := h.of_entry?_document there
  by_cases same : m.loginId = changed.loginId
  · have one : m.document = changed.document := by
      have before := rehashes.before
      rw [← same, there] at before
      exact Entry.file.inj (Option.some.inj before)
    have one : m = changed := by
      have read := Member.parse_document m
      rw [one, Member.parse_document] at read
      exact (Except.ok.inj read).symm
    subst one
    exact ⟨m, passwordHash, rfl, rfl, rehashes.after⟩
  · have apart : documentPath m.loginId ≠ documentPath changed.loginId :=
      fun path => same (documentPath_injective path)
    exact ⟨m, m.passwordHash, rfl, rfl, (rehashes.others _ apart).trans there⟩

end Shelf.Keeps

end MemberAuth.Store
