import MemberAuth.Calendar.Date
import MemberAuth.Member.Fields

/-!
Members and the views of them that leave the system.
-/
namespace MemberAuth

/-- The principal that a request is resolved to. -/
structure Identity where
  memberId : Int64
  loginId : String
  deriving DecidableEq, Repr

/-- A stored member. -/
structure Member where
  id : Int64
  loginId : String
  passwordHash : String
  name : String
  birthDate : Date
  email : String
  deriving DecidableEq, Repr

/-- A member about to be stored, whose id is still to be given. -/
structure NewMember where
  loginId : LoginId
  passwordHash : String
  name : MemberName
  birthDate : Date
  email : Email
  deriving DecidableEq

/-- What a member is shown of its own record. -/
structure Profile where
  id : Int64
  loginId : String
  maskedName : String
  email : String
  birthDate : Date
  deriving DecidableEq, Repr

/-- A registration as it is asked for. -/
structure Registration where
  loginId : String
  password : String
  name : String
  email : String
  birthDate : Date
  deriving DecidableEq, Repr

/-- A change of password as it is asked for. -/
structure PasswordChange where
  currentPassword : String
  newPassword : String
  deriving DecidableEq, Repr

/-- The name with an asterisk in place of its last character. -/
def maskName (name : String) : String :=
  String.ofList (name.toList.dropLast ++ ['*'])

namespace Member

def identity (m : Member) : Identity :=
  ⟨m.id, m.loginId⟩

def profile (m : Member) : Profile :=
  ⟨m.id, m.loginId, maskName m.name, m.email, m.birthDate⟩

end Member

/-- The member that a new one becomes under an id. -/
def NewMember.withId (m : NewMember) (id : Int64) : Member :=
  ⟨id, m.loginId.text, m.passwordHash, m.name.text, m.birthDate, m.email.text⟩

end MemberAuth
