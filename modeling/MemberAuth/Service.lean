import MemberAuth.Failure
import MemberAuth.Hash.Hasher
import MemberAuth.Member.Record
import MemberAuth.Metrics
import MemberAuth.Script

/-!
Operations on members: registering, looking up, changing a password, and verifying a password
against the stored hash. Each is a script of calls to the store, the cache and the counters, so that
several of them can run interleaved or break off between two calls.
-/
namespace MemberAuth.Service

/-- What does not change while the service runs. -/
structure Rules where
  hasher : Hash.Hasher
  characterRule : CharacterRule
  deriving DecidableEq, Repr

inductive Call
  | find (loginId : String)
  | insert (m : NewMember)
  | update (loginId passwordHash : String)
  /-- A salt for a new hash. -/
  | salt
  /-- Drops a cached credential. -/
  | evict (loginId : String)
  | count (k : Counter)
  deriving DecidableEq

abbrev Call.Reply : Call → Type
  | find _ => Except Failure (Option Member)
  | insert _ => Except Failure Member
  | update _ _ => Except Failure Unit
  | salt => Hash.Salt
  | evict _ => Bool
  | count _ => Unit

abbrev ServiceScript := Script Call Call.Reply

namespace ServiceScript

def find (loginId : String) : ServiceScript (Except Failure (Option Member)) :=
  .ask (Call.find loginId)

def insert (m : NewMember) : ServiceScript (Except Failure Member) :=
  .ask (Call.insert m)

def update (loginId passwordHash : String) : ServiceScript (Except Failure Unit) :=
  .ask (Call.update loginId passwordHash)

def salt : ServiceScript Hash.Salt :=
  .ask Call.salt

def evict (loginId : String) : ServiceScript Bool :=
  .ask (Call.evict loginId)

def count (k : Counter) : ServiceScript Unit :=
  .ask (Call.count k)

end ServiceScript

/-- A registration whose fields and password are all in order. -/
structure Admission where
  loginId : LoginId
  name : MemberName
  email : Email

/-- Checks a registration: login id, name, email address, then the password. -/
def checkRegistration (rules : Rules) (r : Registration) : Except Failure Admission := do
  let loginId ← (LoginId.parse r.loginId).mapError .invalidField
  let name ← (MemberName.parse r.name).mapError .invalidField
  let email ← (Email.parse r.email).mapError .invalidField
  (Policy.validate rules.characterRule r.birthDate r.password).mapError .policy
  pure ⟨loginId, name, email⟩

/-- Registers a member. -/
def register (rules : Rules) (r : Registration) : ServiceScript (Except Failure Member) := do
  match checkRegistration rules r with
  | .error e => pure (.error e)
  | .ok a =>
    let salt ← ServiceScript.salt
    let passwordHash := rules.hasher.hash salt r.password
    match ← ServiceScript.insert ⟨a.loginId, passwordHash, a.name, r.birthDate, a.email⟩ with
    | .error e => pure (.error e)
    | .ok member =>
      ServiceScript.count .memberRegistered
      pure (.ok member)

def getMember (loginId : String) : ServiceScript (Except Failure Member) := do
  match ← ServiceScript.find loginId with
  | .error e => pure (.error e)
  | .ok none => pure (.error .memberNotFound)
  | .ok (some m) => pure (.ok m)

/-- Checks a change of password against the stored member: the current password has to verify, and
the new one has to differ from it and to satisfy the policy. -/
def checkChange (rules : Rules) (m : Member) (current new : String) : Except Failure Unit := do
  if !rules.hasher.verify m.passwordHash current then throw .authenticationFailed
  if rules.hasher.verify m.passwordHash new then throw .samePassword
  (Policy.validate rules.characterRule m.birthDate new).mapError .policy

/-- Changes a password and drops the cached credential of the member. -/
def changePassword (rules : Rules) (loginId current new : String) :
    ServiceScript (Except Failure Member) := do
  match ← ServiceScript.find loginId with
  | .error e => pure (.error e)
  | .ok none => pure (.error .authenticationFailed)
  | .ok (some m) =>
    match checkChange rules m current new with
    | .error e => pure (.error e)
    | .ok () =>
      let salt ← ServiceScript.salt
      let passwordHash := rules.hasher.hash salt new
      match ← ServiceScript.update loginId passwordHash with
      | .error e => pure (.error e)
      | .ok () =>
        let _ ← ServiceScript.evict loginId
        ServiceScript.count .passwordChanged
        pure (.ok { m with passwordHash })

/-- Verifies a password against the stored hash. -/
def verify (rules : Rules) (loginId password : String) :
    ServiceScript (Except VerifyFailure Identity) := do
  match ← ServiceScript.find loginId with
  | .error e => pure (.error (.unavailable e.message))
  | .ok none => pure (.error .notFound)
  | .ok (some m) =>
    if rules.hasher.verify m.passwordHash password then pure (.ok m.identity)
    else pure (.error .wrongPassword)

end MemberAuth.Service
