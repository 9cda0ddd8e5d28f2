import MemberAuth.Hash.Phc
import MemberAuth.Text.Bytes

/-!
Hashing passwords for storage, and checking a password against what is stored. A stored hash carries
its own cost, so a hasher checks the hashes of every other hasher. Both break off where the memory
that scrypt takes at the cost cannot be had.
-/
namespace MemberAuth.Hash

/-- Sixteen random bytes. -/
abbrev Salt := Vector UInt8 16

structure Hasher where
  cost : Cost
  deriving DecidableEq, Repr

/-- Hashes for storage are this many bytes long. -/
def outputLength : Nat := 32

namespace Hasher

open Text

/-- The text that is stored for a password, where its derivation has the memory it takes. -/
def hash (h : Hasher) (salt : Salt) (password : String) : String :=
  Phc.write h.cost salt.toList (scrypt h.cost (textBytes password) salt.toList outputLength)

/-- Hashes a password, where every allocation of up to `granted` bytes can be had. -/
def hash? (h : Hasher) (granted : Nat) (salt : Salt) (password : String) : Option String :=
  if h.cost.fits granted then some (h.hash salt password) else none

/-- The output that the password gives under the stored algorithm, cost and salt. -/
def recompute? (stored : Phc) (password : String) (length : Nat) : Option (List UInt8) := do
  if stored.algorithm ≠ Phc.scryptName ∨ stored.version.isSome then none
  let cost ← stored.cost?
  let salt ← Base64.decode (← stored.salt)
  pure (scrypt cost (textBytes password) salt length)

/-- A hash that cannot be read matches no password. As in `hash`, a derivation has the memory it
takes. -/
def verify (_ : Hasher) (stored password : String) : Bool :=
  match Phc.parse? stored with
  | none => false
  | some phc =>
    match phc.output with
    | none => false
    | some output => recompute? phc password output.length == some output

/-- The cost at which an output is derived to check a stored hash, if it comes to that. -/
def checkedCost? (stored : String) : Option Cost := do
  let phc ← Phc.parse? stored
  if phc.algorithm ≠ Phc.scryptName ∨ phc.version.isSome ∨ phc.output.isNone then none
  let _ ← Base64.decode (← phc.salt)
  phc.cost?

/-- Checks a password, where every allocation of up to `granted` bytes can be had. -/
def verify? (h : Hasher) (granted : Nat) (stored password : String) : Option Bool :=
  if (checkedCost? stored).all (·.fits granted) then some (h.verify stored password) else none

end Hasher

end MemberAuth.Hash
