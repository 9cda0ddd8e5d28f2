import MemberAuth.Failure
import MemberAuth.Http.MediaType
import MemberAuth.Http.Target

/-!
Requests as they reach the routes, and the responses given to them.
-/
namespace MemberAuth.Http

/-- A request whose body is text. Bodies that are not UTF-8 are left out, though fields that nobody
reads may hold such bytes. -/
structure Request where
  method : String
  path : String
  /-- Names in lower case, with the bytes of their values, in the order of arrival. -/
  headers : List (String × List UInt8)
  body : String
  deriving DecidableEq, Repr

structure Response where
  status : Nat
  contentType : Option String
  /-- The methods of an `Allow` header. -/
  allow : Option (List String)
  body : String
  deriving DecidableEq, Repr

namespace Request

def isToken (text : String) : Bool :=
  !text.isEmpty && text.toList.all isTokenChar

/-- A byte that a header value may hold. -/
def isValueByte (b : UInt8) : Bool :=
  b == 9 || (0x20 ≤ b && b != 0x7F)

/-- A byte that a readable header value may hold. -/
def isReadableByte (b : UInt8) : Bool :=
  b == 9 || (0x20 ≤ b && b < 0x7F)

/-- A request from its parts, if they make one. -/
def of? (method target : String) (headers : List (String × List UInt8)) (body : String) :
    Option Request := do
  let path ← Target.path? target
  if isToken method && headers.all fun (name, value) => isToken name && value.all isValueByte then
    some ⟨method, path, headers.map fun (name, value) => (name.toLower, value), body⟩
  else none

/-- The first value under a name in lower case. A value that is not readable counts as absent. -/
def header? (r : Request) (name : String) : Option String := do
  let value ← r.headers.lookup name
  if value.all isReadableByte then
    some (String.ofList (value.map fun b => Char.ofNat b.toNat))
  else none

end Request

namespace Response

def json (status : Nat) (body : String) : Response :=
  ⟨status, some "application/json", none, body⟩

def plain (status : Nat) (body : String) : Response :=
  ⟨status, some "text/plain; charset=utf-8", none, body⟩

def empty (status : Nat) : Response :=
  ⟨status, none, none, ""⟩

def ofFailure (f : Failure) : Response :=
  json f.status f.body

def allowing (r : Response) (methods : List String) : Response :=
  { r with allow := some methods }

def withoutBody (r : Response) : Response :=
  { r with body := "" }

end Response

end MemberAuth.Http
