import MemberAuth.Script
import MemberAuth.Store.Disk

/-!
The file steps that the store is made of, each of which happens at once, and what they do to a disk
on which no step fails without reason.
-/
namespace MemberAuth.Store

inductive FileCall
  /-- A path for a temporary file that nothing else uses. -/
  | freshPath
  | write (p : Path) (text : String)
  | link (source target : Path)
  | rename (source target : Path)
  | remove (p : Path)
  | read (p : Path)
  /-- The next member id. -/
  | takeId
  deriving DecidableEq, Repr

abbrev FileCall.Reply : FileCall → Type
  | freshPath => Path
  | write _ _ => Except FileError Unit
  | link _ _ => Except FileError Unit
  | rename _ _ => Except FileError Unit
  | remove _ => Except FileError Unit
  | read _ => Except FileError String
  | takeId => Int64

abbrev FileScript := Script FileCall FileCall.Reply

namespace FileScript

def freshPath : FileScript Path :=
  .ask FileCall.freshPath

def write (p : Path) (text : String) : FileScript (Except FileError Unit) :=
  .ask (FileCall.write p text)

def link (source target : Path) : FileScript (Except FileError Unit) :=
  .ask (FileCall.link source target)

def rename (source target : Path) : FileScript (Except FileError Unit) :=
  .ask (FileCall.rename source target)

def remove (p : Path) : FileScript (Except FileError Unit) :=
  .ask (FileCall.remove p)

def read (p : Path) : FileScript (Except FileError String) :=
  .ask (FileCall.read p)

def takeId : FileScript Int64 :=
  .ask FileCall.takeId

end FileScript

/-- A disk with the id that is due next and the number of temporary paths given out. -/
structure Shelf where
  disk : Disk
  nextId : Int64
  freshCount : Nat

/-- The folder of the member documents. -/
def membersFolder : Path := ["members"]

/-- The folder of the email reservations. -/
def emailFolder : Path := ["members", "by-email"]

/-- The temporary path with a number. -/
def temporaryPath (n : Nat) : Path :=
  let digits := (Nat.toDigits 16 n).leftpad 12 '0'
  membersFolder ++ [".00000000-0000-4000-8000-" ++ String.ofList digits ++ ".tmp"]

namespace Shelf

/-- The shelf after an operation on its disk. A failed one leaves it as it is. -/
def after (s : Shelf) (r : Except FileError Disk) : Shelf × Except FileError Unit :=
  match r with
  | .ok disk => ({ s with disk }, .ok ())
  | .error e => (s, .error e)

def perform : (c : FileCall) → Shelf → Shelf × c.Reply
  | .freshPath, s => ({ s with freshCount := s.freshCount + 1 }, temporaryPath s.freshCount)
  | .write p text, s => s.after (s.disk.write p text)
  | .link source target, s => s.after (s.disk.link source target)
  | .rename source target, s => s.after (s.disk.rename source target)
  | .remove p, s => s.after (s.disk.remove p)
  | .read p, s => (s, s.disk.read p)
  | .takeId, s => ({ s with nextId := s.nextId + 1 }, s.nextId)

end Shelf

end MemberAuth.Store
