import MemberAuth.App
import MemberAuth.Http.Message
import MemberAuth.Member.Wire

/-!
The routes of the member service. Registration is open; the own profile and the change of password
ask for credentials first, whatever the method and the body are.
-/
namespace MemberAuth.Http

inductive Route
  | members
  | profile
  | password
  deriving DecidableEq, Repr

namespace Route

def path : Route → String
  | members => "/api/v1/members"
  | profile => "/api/v1/members/me"
  | password => "/api/v1/members/me/password"

def ofPath? (path : String) : Option Route :=
  [members, profile, password].find? fun r => r.path == path

/-- The methods that the route answers, in alphabetical order. -/
def methods : Route → List String
  | members => ["POST"]
  | profile => ["GET", "HEAD"]
  | password => ["PATCH"]

def needsMember : Route → Bool
  | members => false
  | profile | password => true

end Route

def loginIdHeader : String := "x-loopers-loginid"

def passwordHeader : String := "x-loopers-loginpw"

/-- Bodies are read up to this many bytes. -/
def maxBodyLength : Nat := 2097152

/-- The JSON body of a request, or the response to one that cannot be read. -/
def readBody {α : Type} (r : Request) (parse : String → Except Json.ReadError α) :
    Except Response α :=
  if !(r.header? "content-type").any MediaType.isJson then
    .error (.plain 415 "Expected request with `Content-Type: application/json`")
  else if maxBodyLength < r.body.utf8ByteSize then
    .error (.plain 413 "Failed to buffer the request body: length limit exceeded")
  else
    match parse r.body with
    | .ok value => .ok value
    | .error .mismatch =>
      .error (.plain 422 "Failed to deserialize the JSON body into the target type")
    | .error _ => .error (.plain 400 "Failed to parse the request body as JSON")

/-- Reports the outcome of an operation on a member. -/
def memberResponse (status : Nat) : Except Failure Member → Response
  | .ok m => .json status m.profile.toJson
  | .error e => .ofFailure e

def register (a : App) (r : Request) : App × Response :=
  match readBody r Registration.parse with
  | .error response => (a, response)
  | .ok registration =>
    let (a, result) := a.register registration
    (a, memberResponse 201 result)

def showProfile (a : App) (who : Identity) : App × Response :=
  let (a, result) := a.getMember who.loginId
  (a, memberResponse 200 result)

def changePassword (a : App) (who : Identity) (r : Request) : App × Response :=
  match readBody r PasswordChange.parse with
  | .error response => (a, response)
  | .ok change =>
    let (a, result) := a.changePassword who.loginId change.currentPassword change.newPassword
    (a, memberResponse 200 result)

/-- Answers a request of an authenticated member with a method that the route knows. -/
def answerMember (a : App) (route : Route) (who : Identity) (r : Request) : App × Response :=
  match route with
  | .password => changePassword a who r
  | _ => showProfile a who

/-- Marks a response to a method that the route does not know. -/
def markMethod (route : Route) (r : Request) (response : Response) : Response :=
  if route.methods.contains r.method then response else response.allowing route.methods

/-- Answers a request for a route. -/
def answerRoute (a : App) (route : Route) (r : Request) : App × Response :=
  let known := route.methods.contains r.method
  if route.needsMember then
    let loginId := (r.header? loginIdHeader).getD ""
    let password := (r.header? passwordHeader).getD ""
    match a.authenticate loginId password with
    | (a, .error e) => (a, markMethod route r (.ofFailure e.toFailure))
    | (a, .ok who) =>
      if known then answerMember a route who r
      else (a, markMethod route r (.empty 405))
  else if known then register a r
  else (a, markMethod route r (.empty 405))

/-- Answers a request. A `HEAD` request gets no body. -/
def answer (a : App) (r : Request) : App × Response :=
  match Route.ofPath? r.path with
  | none => (a, .empty 404)
  | some route =>
    let (a, response) := answerRoute a route r
    (a, if r.method = "HEAD" then response.withoutBody else response)

end MemberAuth.Http
