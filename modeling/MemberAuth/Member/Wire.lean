import MemberAuth.Json.Written
import MemberAuth.Member.Record

/-!
The JSON forms of members, of their views and of requests.
-/
namespace MemberAuth

open Json

namespace Identity

def fields : List Field :=
  [⟨"memberId", .int64⟩, ⟨"loginId", .text⟩]

def toRow (i : Identity) : Row fields :=
  (i.memberId, i.loginId, ())

def ofRow : Row fields → Identity
  | (memberId, loginId, ()) => ⟨memberId, loginId⟩

def toJson (i : Identity) : String :=
  rowText fields i.toRow

def parse (text : String) : Except ReadError Identity :=
  (parseRow fields text).map ofRow

end Identity

namespace Registration

def fields : List Field :=
  [⟨"loginId", .text⟩, ⟨"password", .text⟩, ⟨"name", .text⟩, ⟨"email", .text⟩, ⟨"birthDate", .date⟩]

def toRow (r : Registration) : Row fields :=
  (r.loginId, r.password, r.name, r.email, r.birthDate, ())

def ofRow : Row fields → Registration
  | (loginId, password, name, email, birthDate, ()) => ⟨loginId, password, name, email, birthDate⟩

def toJson (r : Registration) : String :=
  rowText fields r.toRow

def parse (text : String) : Except ReadError Registration :=
  (parseRow fields text).map ofRow

end Registration

namespace PasswordChange

def fields : List Field :=
  [⟨"currentPassword", .text⟩, ⟨"newPassword", .text⟩]

def toRow (c : PasswordChange) : Row fields :=
  (c.currentPassword, c.newPassword, ())

def ofRow : Row fields → PasswordChange
  | (currentPassword, newPassword, ()) => ⟨currentPassword, newPassword⟩

def toJson (c : PasswordChange) : String :=
  rowText fields c.toRow

def parse (text : String) : Except ReadError PasswordChange :=
  (parseRow fields text).map ofRow

end PasswordChange

namespace Profile

def fields : List Field :=
  [⟨"id", .int64⟩, ⟨"loginId", .text⟩, ⟨"maskedName", .text⟩, ⟨"email", .text⟩,
    ⟨"birthDate", .date⟩]

def toRow (p : Profile) : Row fields :=
  (p.id, p.loginId, p.maskedName, p.email, p.birthDate, ())

def ofRow : Row fields → Profile
  | (id, loginId, maskedName, email, birthDate, ()) => ⟨id, loginId, maskedName, email, birthDate⟩

def toJson (p : Profile) : String :=
  rowText fields p.toRow

def parse (text : String) : Except ReadError Profile :=
  (parseRow fields text).map ofRow

end Profile

namespace Member

def fields : List Field :=
  [⟨"id", .int64⟩, ⟨"login_id", .text⟩, ⟨"password_hash", .text⟩, ⟨"name", .text⟩,
    ⟨"birth_date", .date⟩, ⟨"email", .text⟩]

def toRow (m : Member) : Row fields :=
  (m.id, m.loginId, m.passwordHash, m.name, m.birthDate, m.email, ())

def ofRow : Row fields → Member
  | (id, loginId, passwordHash, name, birthDate, email, ()) =>
    ⟨id, loginId, passwordHash, name, birthDate, email⟩

def toJson (m : Member) : String :=
  rowText fields m.toRow

/-- The document in which a member is stored. -/
def document (m : Member) : String :=
  rowLines fields m.toRow

def parse (text : String) : Except ReadError Member :=
  (parseRow fields text).map ofRow

end Member

end MemberAuth
