import MemberAuth.Text.Blank
import MemberAuth.Text.Decimal

/-!
The validated fields of a member: login id, name and email address. Each is a text together with the
fact that its rules hold, and reading one names the first rule that fails.
-/
namespace MemberAuth

inductive FieldError
  | loginId (reason : String)
  | name (reason : String)
  | email (reason : String)
  deriving DecidableEq, Repr

def FieldError.message : FieldError → String
  | loginId reason => "Invalid login ID: " ++ reason
  | name reason => "Invalid name: " ++ reason
  | email reason => "Invalid email: " ++ reason

namespace LoginId

/-- In bytes. -/
def maxLength : Nat := 50

def check (text : String) : Except FieldError Unit :=
  if Text.allBlank text then .error (.loginId "Login ID must not be empty")
  else if maxLength < text.utf8ByteSize then
    .error (.loginId s!"Login ID cannot exceed {maxLength} characters")
  else if !text.toList.all Text.isAsciiAlphanumeric then
    .error (.loginId "Login ID must contain only letters and digits")
  else .ok ()

end LoginId

namespace MemberName

/-- In characters. -/
def maxLength : Nat := 100

def check (text : String) : Except FieldError Unit :=
  if Text.allBlank text then .error (.name "Name must not be empty")
  else if maxLength < text.length then
    .error (.name s!"Name cannot exceed {maxLength} characters")
  else .ok ()

end MemberName

namespace Email

/-- In bytes. -/
def maxLength : Nat := 254

def isLocalChar (c : Char) : Bool :=
  Text.isAsciiAlphanumeric c || c == '.' || c == '_' || c == '%' || c == '+' || c == '-'

def isDomainChar (c : Char) : Bool :=
  Text.isAsciiAlphanumeric c || c == '.' || c == '-'

/-- The domain is a non-empty part, a dot, and at least two letters after the last dot. -/
def isDomain (cs : List Char) : Bool :=
  let backward := cs.reverse
  let top := backward.takeWhile (· != '.')
  let rest := backward.dropWhile (· != '.')
  2 ≤ top.length && top.all Text.isAsciiLetter && 2 ≤ rest.length && rest.all isDomainChar

/-- A non-empty local part, an at sign, and a domain. -/
def isAddress (cs : List Char) : Bool :=
  let localPart := cs.takeWhile (· != '@')
  match cs.dropWhile (· != '@') with
  | [] => false
  | _ :: domain => !localPart.isEmpty && localPart.all isLocalChar && isDomain domain

def check (text : String) : Except FieldError Unit :=
  if text.isEmpty then .error (.email "Email address cannot be empty")
  else if maxLength < text.utf8ByteSize then
    .error (.email s!"Email address cannot exceed {maxLength} characters")
  else if !isAddress text.toList then .error (.email "Invalid email address format")
  else .ok ()

end Email

/-- A login id: up to fifty ASCII letters and digits. -/
structure LoginId where
  text : String
  valid : LoginId.check text = .ok ()
  deriving DecidableEq

/-- A name that is not blank, of up to a hundred characters. -/
structure MemberName where
  text : String
  valid : MemberName.check text = .ok ()
  deriving DecidableEq

/-- An email address. -/
structure Email where
  text : String
  valid : Email.check text = .ok ()
  deriving DecidableEq

def LoginId.parse (text : String) : Except FieldError LoginId :=
  match h : LoginId.check text with
  | .ok () => .ok ⟨text, h⟩
  | .error e => .error e

def MemberName.parse (text : String) : Except FieldError MemberName :=
  match h : MemberName.check text with
  | .ok () => .ok ⟨text, h⟩
  | .error e => .error e

def Email.parse (text : String) : Except FieldError Email :=
  match h : Email.check text with
  | .ok () => .ok ⟨text, h⟩
  | .error e => .error e

/-- The spelling that addresses share when they differ in ASCII case only. -/
def Email.key (e : Email) : String :=
  String.ofList (e.text.toList.map Text.asciiLower)

end MemberAuth
