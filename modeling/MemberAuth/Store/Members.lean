import MemberAuth.Failure
import MemberAuth.Member.Wire
import MemberAuth.Store.Files

/-!
Members kept as files: a JSON document for each under its login id, and a reservation for each email
address, in any case, that holds the login id of its owner. A file is written aside and then put in
place whole, so that no reader sees a part of one.
-/
namespace MemberAuth.Store

def documentPath (loginId : String) : Path :=
  membersFolder ++ [loginId ++ ".json"]

def reservationPath (email : Email) : Path :=
  emailFolder ++ [email.key]

def ioFailure : Failure := .io .system

/-- Removes a file if that is possible. -/
def removeQuietly (p : Path) : FileScript Unit := do
  let _ ← FileScript.remove p
  pure ()

/-- Writes a temporary file. -/
def writeAside (text : String) : FileScript (Except Failure Path) := do
  let temp ← FileScript.freshPath
  match ← FileScript.write temp text with
  | .ok () => pure (.ok temp)
  | .error _ =>
    removeQuietly temp
    pure (.error ioFailure)

/-- Puts a text in place where nothing is yet. The inner result is that of the last step. -/
def createExclusive (target : Path) (text : String) :
    FileScript (Except Failure (Except FileError Unit)) := do
  match ← writeAside text with
  | .error e => pure (.error e)
  | .ok temp =>
    let linked ← FileScript.link temp target
    removeQuietly temp
    pure (.ok linked)

/-- Reads the outcome of an exclusive creation, with the key that is taken if something was there.
-/
def creationResult (key : String) : Except Failure (Except FileError Unit) → Except Failure Unit
  | .error e => .error e
  | .ok (.ok ()) => .ok ()
  | .ok (.error .alreadyExists) => .error (.duplicateMember key)
  | .ok (.error _) => .error ioFailure

/-- Stores a new member under the next id: reserves the email address, then publishes the document.
The reservation is given back if the document cannot be published. -/
def insert (m : NewMember) : FileScript (Except Failure Member) := do
  let id ← FileScript.takeId
  let member := m.withId id
  let reservation := reservationPath m.email
  match creationResult member.email (← createExclusive reservation member.loginId) with
  | .error e => pure (.error e)
  | .ok () =>
    let created ← createExclusive (documentPath member.loginId) member.document
    match creationResult member.loginId created with
    | .ok () => pure (.ok member)
    | .error e =>
      removeQuietly reservation
      pure (.error e)

/-- The member under a login id. A text that is no login id names none, and no file is read. -/
def find (loginId : String) : FileScript (Except Failure (Option Member)) := do
  match LoginId.check loginId with
  | .error _ => pure (.ok none)
  | .ok () =>
    match ← FileScript.read (documentPath loginId) with
    | .error .notFound => pure (.ok none)
    | .error _ => pure (.error ioFailure)
    | .ok text =>
      match Member.parse text with
      | .ok m => pure (.ok (some m))
      | .error _ => pure (.error .json)

/-- Replaces the password hash of the member under a login id. -/
def update (loginId passwordHash : String) : FileScript (Except Failure Unit) := do
  match ← find loginId with
  | .error e => pure (.error e)
  | .ok none => pure (.error .memberNotFound)
  | .ok (some m) =>
    match ← writeAside { m with passwordHash }.document with
    | .error e => pure (.error e)
    | .ok temp =>
      match ← FileScript.rename temp (documentPath loginId) with
      | .ok () => pure (.ok ())
      | .error _ =>
        removeQuietly temp
        pure (.error ioFailure)

end MemberAuth.Store
