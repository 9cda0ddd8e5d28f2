import MemberAuth.Json.Written
import MemberAuth.Member.Fields
import MemberAuth.Password.Policy

/-!
Why an operation is refused or fails, and how that is reported: a message in full, a message that
gives nothing away, a code, and an HTTP status.
-/
namespace MemberAuth

/-- Why a file operation fails. -/
inductive IoCause
  /-- The operating system refused it; its words are not repeated. -/
  | system
  /-- A cause that comes with its own words. -/
  | reported (text : String)
  deriving DecidableEq, Repr

inductive Failure
  | missingCredentials
  | authenticationFailed
  | policy (violation : PolicyViolation)
  | samePassword
  | invalidField (error : FieldError)
  | memberNotFound
  /-- The login id or the email address that is taken. -/
  | duplicateMember (key : String)
  | internal (text : String)
  | io (cause : IoCause)
  | json
  deriving DecidableEq, Repr

namespace Failure

def message : Failure → String
  | missingCredentials => "Missing credentials"
  | authenticationFailed => "Authentication failed"
  | policy violation => "Password policy violation: " ++ violation.message
  | samePassword => "New password must differ from the current password"
  | invalidField error => "Invalid input: " ++ error.message
  | memberNotFound => "Member not found"
  | duplicateMember key => "Member already exists: " ++ key
  | internal text => "Internal error: " ++ text
  | io .system => "IO error"
  | io (.reported text) => "IO error: " ++ text
  | json => "JSON error"

def status : Failure → Nat
  | missingCredentials | authenticationFailed => 401
  | policy _ | samePassword | invalidField _ => 400
  | memberNotFound => 404
  | duplicateMember _ => 409
  | internal _ | io _ | json => 500

def code : Failure → String
  | missingCredentials => "AUTH_001"
  | authenticationFailed => "AUTH_002"
  | policy _ => "PWD_001"
  | samePassword => "PWD_002"
  | invalidField _ => "VAL_001"
  | memberNotFound => "MEM_001"
  | duplicateMember _ => "MEM_002"
  | internal _ => "INT_001"
  | io _ => "IO_001"
  | json => "JSON_001"

/-- A message that tells the caller only what helps to mend the request. -/
def sanitizedMessage : Failure → String
  | missingCredentials | authenticationFailed => "Authentication failed"
  | policy violation => violation.message
  | samePassword => samePassword.message
  | invalidField error => error.message
  | memberNotFound => "Resource not found"
  | duplicateMember _ => "Member already exists"
  | internal _ => "An internal server error occurred"
  | io _ | json => "Internal server error"

/-- The JSON body of a response that reports the failure. -/
def body (f : Failure) : String :=
  "\x7b\"error\":\x7b\"code\":" ++ String.ofList (Json.writeString f.code.toList)
    ++ ",\"message\":" ++ String.ofList (Json.writeString f.message.toList) ++ "\x7d\x7d"

end Failure

/-- Why the stored members do not vouch for a login id and password. -/
inductive VerifyFailure
  | notFound
  | wrongPassword
  | unavailable (reason : String)
  deriving DecidableEq, Repr

def VerifyFailure.message : VerifyFailure → String
  | notFound => "member not found"
  | wrongPassword => "wrong password"
  | unavailable reason => "credential store unavailable: " ++ reason

end MemberAuth
