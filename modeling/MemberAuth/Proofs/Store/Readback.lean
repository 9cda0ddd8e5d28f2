import MemberAuth.Proofs.Store.Frame

/-!
# What is written reads back

Every value that is written as JSON reads back as itself: members from their documents, identities,
registrations, changes of password and profiles from their texts. And the documents that the store
puts in place are of this kind, so a member that was stored can always be found again, whatever
stands in its fields.
-/
namespace MemberAuth.Store

open MemberAuth.Store.Shelf

variable {s : Shelf}

/-- A text that was put in place lies there. -/
theorem entry_of_createExclusive {target : Path} {text : String}
    (apart : ∀ n, target ≠ temporaryPath n)
    (created : ((createExclusive target text).run perform s).2 = .ok (.ok ())) :
    Disk.entry? ((createExclusive target text).run perform s).1.disk target =
      some (.file text) := by
  have place : ∀ temp, ((writeAside text).run perform s).2 = .ok temp →
      temp = temporaryPath s.freshCount := fun _ => run_writeAside_eq_ok
  have aside : ∀ temp, ((writeAside text).run perform s).2 = .ok temp →
      Disk.entry? ((writeAside text).run perform s).1.disk temp = some (.file text) :=
    fun _ => entry_of_writeAside
  rw [createExclusive, Script.run_bind] at created ⊢
  generalize (writeAside text).run perform s = w at place aside created ⊢
  obtain ⟨s', e | temp⟩ := w
  · cases created
  have temporary := place temp rfl
  have written := aside temp rfl
  dsimp only at written created ⊢
  rw [Script.run_bind] at created ⊢
  simp only [FileScript.link, Script.run_ask, perform] at created ⊢
  cases linked : s'.disk.link temp target with
  | error e =>
    rw [linked] at created
    cases created
  | ok d =>
    obtain ⟨hp, _, text', there, rfl⟩ := Disk.link_ok linked
    rw [written] at there
    cases there
    have placed := (Disk.entry?_set s'.disk hp (.file text) target).trans (if_pos rfl)
    have spared : Spares target (removeQuietly temp) :=
      spares_removeQuietly (temporary ▸ apart s.freshCount)
    rw [Script.run_bind]
    exact spared.run placed

theorem creationResult_eq_ok {key : String} {r : Except Failure (Except FileError Unit)} :
    creationResult key r = .ok () ↔ r = .ok (.ok ()) := by
  rcases r with e | e | _
  · simp [creationResult]
  · cases e <;> simp [creationResult]
  · simp [creationResult]

/-- A registration that succeeds puts the document of the member in place. -/
theorem entry_of_insert_ok {m : NewMember} {member : Member}
    (stored : ((insert m).run perform s).2 = .ok member) :
    member = m.withId s.nextId ∧
      Disk.entry? ((insert m).run perform s).1.disk (documentPath member.loginId) =
        some (.file member.document) := by
  have apart n := (temporaryPath_ne_documentPath n m.loginId.text).symm
  rw [insert, Script.run_bind] at stored ⊢
  simp only [FileScript.takeId, Script.run_ask, perform] at stored ⊢
  rw [Script.run_bind] at stored ⊢
  split at stored
  · cases stored
  rw [Script.run_bind] at stored ⊢
  split at stored
  · rename_i created
    rw [creationResult_eq_ok] at created
    obtain rfl := (Except.ok.inj stored).symm
    exact ⟨rfl, entry_of_createExclusive apart created⟩
  · cases stored

theorem find_of_insert_ok {m : NewMember} {member : Member}
    (stored : ((insert m).run perform s).2 = .ok member) :
    ((insert m).run perform s).1.find member.loginId = .ok (some member) := by
  obtain ⟨rfl, placed⟩ := entry_of_insert_ok stored
  exact find_of_document m.loginId.valid placed

/-- Every value that is written reads back as itself: any member, of whatever strings it consists
and at whatever date and id, from its document, which is what registrations and changes of the hash
put in place and what is found from then on, and the values of the wire from their texts. -/
theorem encodings_survive :
    (∀ m : Member, Member.parse m.document = .ok m) ∧
      (∀ (s : Shelf) (m : NewMember) (member : Member),
        ((insert m).run perform s).2 = .ok member →
          let after := ((insert m).run perform s).1
          after.disk.entry? (documentPath member.loginId) = some (.file member.document) ∧
            after.find member.loginId = .ok (some member)) ∧
      (∀ (s : Shelf) (loginId passwordHash : String),
        ((update loginId passwordHash).run perform s).2 = .ok () →
          let after := ((update loginId passwordHash).run perform s).1
          ∃ m : Member, s.find loginId = .ok (some m) ∧
            after.disk.entry? (documentPath loginId) =
              some (.file { m with passwordHash }.document) ∧
            after.find loginId = .ok (some { m with passwordHash })) ∧
      (∀ i : Identity, Identity.parse i.toJson = .ok i) ∧
      (∀ r : Registration, Registration.parse r.toJson = .ok r) ∧
      (∀ c : PasswordChange, PasswordChange.parse c.toJson = .ok c) ∧
      ∀ p : Profile, Profile.parse p.toJson = .ok p := by
  refine ⟨Member.parse_document, ?insert, ?update, Identity.parse_toJson,
    Registration.parse_toJson, PasswordChange.parse_toJson, Profile.parse_toJson⟩
  case insert =>
    intro s m member stored
    exact ⟨(entry_of_insert_ok stored).2, find_of_insert_ok stored⟩
  case update =>
    intro s loginId passwordHash changed
    obtain ⟨m, found, placed⟩ := entry_of_update_ok changed
    exact ⟨m, found, placed, find_of_document (find_eq_some.mp found).1 placed⟩

/-- A new member who was born on the first day there is and has a name that has to be escaped. -/
def firstborn : NewMember :=
  ⟨⟨"kay", rfl⟩, "", ⟨"\"Kay\" \\ \x01", rfl⟩, ⟨-262143, 1, 1, rfl⟩, ⟨"kay@example.org", rfl⟩⟩

/-- The member is stored under the least id there is. -/
theorem encodings_survive_at_limits :
    let s : Shelf := ⟨(Disk.empty.makeFolders emailFolder).1, Int64.minValue, 0⟩
    let member := firstborn.withId Int64.minValue
    ((insert firstborn).run perform s).2 = .ok member ∧
      Disk.entry? ((insert firstborn).run perform s).1.disk (documentPath "kay") =
        some (.file member.document) ∧
      Member.parse member.document = .ok member := by
  have stored : ((insert firstborn).run perform
      ⟨(Disk.empty.makeFolders emailFolder).1, Int64.minValue, 0⟩).2 =
        .ok (firstborn.withId Int64.minValue) := by decide +kernel
  obtain ⟨documents, inserts, _⟩ := encodings_survive
  obtain ⟨placed, _⟩ := inserts _ firstborn _ stored
  exact ⟨stored, placed, documents _⟩

end MemberAuth.Store
