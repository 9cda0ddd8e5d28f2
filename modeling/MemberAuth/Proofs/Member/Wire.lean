import MemberAuth.Member.Wire
import MemberAuth.Proofs.Json.Record

/-!
# Stored documents and wire values read back

The document in which a member is stored reads back as the member, so it stands for no other; and
the JSON texts of identities, registrations, changes of password and profiles read back as these.
-/
namespace MemberAuth

/-- A record that is written on one line and read back is made into what it came from. -/
theorem Json.map_parseRow_rowText {α : Type} {fs : List Json.Field}
    (names : (fs.map Json.Field.name).Nodup) (ofRow : Json.Row fs → α) (row : Json.Row fs) :
    (Json.parseRow fs (Json.rowText fs row)).map ofRow = .ok (ofRow row) := by
  rw [Json.parseRow_rowText names]
  rfl

theorem Identity.parse_toJson (i : Identity) : Identity.parse i.toJson = .ok i :=
  Json.map_parseRow_rowText (by decide) ofRow i.toRow

theorem Registration.parse_toJson (r : Registration) : Registration.parse r.toJson = .ok r :=
  Json.map_parseRow_rowText (by decide) ofRow r.toRow

theorem PasswordChange.parse_toJson (c : PasswordChange) :
    PasswordChange.parse c.toJson = .ok c :=
  Json.map_parseRow_rowText (by decide) ofRow c.toRow

theorem Profile.parse_toJson (p : Profile) : Profile.parse p.toJson = .ok p :=
  Json.map_parseRow_rowText (by decide) ofRow p.toRow

namespace Member

theorem parse_document (m : Member) : Member.parse m.document = .ok m := by
  have names : (fields.map Json.Field.name).Nodup := by decide
  rw [Member.parse, document, Json.parseRow_rowLines names]
  rfl

theorem document_injective {m n : Member} (h : m.document = n.document) : m = n := by
  have parsed := parse_document m
  rw [h, parse_document n] at parsed
  exact (Except.ok.inj parsed).symm

end Member

end MemberAuth
