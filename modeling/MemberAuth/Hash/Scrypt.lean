import MemberAuth.Hash.Hmac
import MemberAuth.Hash.Salsa

/-!
scrypt: a key derivation whose cost in time and memory is set by three parameters.
-/
namespace MemberAuth.Hash

namespace Scrypt

/-- The block sizes fit a 64-bit word, and the counters do not run over. -/
def admissible (logN r p : Nat) : Bool :=
  logN < 64 && 0 < r && 0 < p && r * 128 * Nat.pow 2 logN < UInt64.size
    && r * 128 * p < UInt64.size && logN < 16 * r && r * p < 0x40000000

end Scrypt

/-- Memory cost `2 ^ logN`, block size `r` and parallelism `p`. -/
structure Cost where
  logN : Nat
  r : Nat
  p : Nat
  valid : Scrypt.admissible logN r p = true
  deriving DecidableEq, Repr

def Cost.of? (logN r p : Nat) : Option Cost :=
  if h : Scrypt.admissible logN r p = true then some ⟨logN, r, p, h⟩ else none

/-- What is said of parameters that make no cost. -/
def Cost.refusal : String :=
  "invalid scrypt parameters: invalid scrypt parameters"

/-- How many bytes the largest allocation has. There is one for the `p` blocks that are mixed, and
one for the `2 ^ logN` blocks that are kept while one of them is. -/
def Cost.memory (c : Cost) : Nat :=
  128 * c.r * max c.p (Nat.pow 2 c.logN)

/-- However much memory there is, one allocation has no more bytes than this. -/
def largestAllocation : Nat := 9223372036854775807

/-- The memory can be had where every allocation of up to `granted` bytes is. The parameters of a
cost are not checked for this. -/
def Cost.fits (c : Cost) (granted : Nat) : Bool :=
  c.memory ≤ granted && c.memory ≤ largestAllocation

namespace Scrypt

/-- A block is `2 * r` cells. -/
abbrev Block := List Cell

def zeroCell : Cell :=
  Vector.replicate 16 0

/-- Each cell is mixed with the result of the cell before it. -/
def chain : Cell → Block → Block
  | _, [] => []
  | x, c :: rest =>
    let y := Salsa.core (x.xor c)
    y :: chain y rest

/-- The elements at even places. -/
def evens : Block → Block
  | [] => []
  | [c] => [c]
  | c :: _ :: rest => c :: evens rest

/-- The chain starts from the last cell; its results are dealt out by the parity of their place. -/
def mixBlock (b : Block) : Block :=
  let ys := chain (b.getLast?.getD zeroCell) b
  evens ys ++ evens ys.tail

def xorBlock (a b : Block) : Block :=
  List.zipWith Cell.xor a b

/-- The first eight bytes of the last cell as a little-endian number. -/
def toIndex (b : Block) : Nat :=
  let last := b.getLast?.getD zeroCell
  last[0].toNat + UInt32.size * last[1].toNat

/-- The next `n` blocks of the sequence that mixing generates, kept in order, and the one after. -/
def fill : Nat → Array Block → Block → Array Block × Block
  | 0, kept, b => (kept, b)
  | n + 1, kept, b => fill n (kept.push b) (mixBlock b)

/-- `n` rounds, each of which mixes in the kept block that the current one points at. -/
def stir (kept : Array Block) : Nat → Block → Block
  | 0, b => b
  | n + 1, b => stir kept n (mixBlock (xorBlock b (kept.getD (toIndex b % kept.size) [])))

def roMix (logN : Nat) (b : Block) : Block :=
  let (kept, b) := fill (Nat.pow 2 logN) #[] b
  stir kept (Nat.pow 2 logN) b

/-- Cuts words into `n` cells of sixteen. -/
def cells : Nat → List UInt32 → List Cell
  | 0, _ => []
  | n + 1, ws => Cell.ofWords (ws.take 16).toArray :: cells n (ws.drop 16)

/-- Mixes each of `n` blocks on its own. -/
def mixAll (cost : Cost) : Nat → List Cell → List Cell
  | 0, _ => []
  | n + 1, cs =>
    roMix cost.logN (cs.take (2 * cost.r)) ++ mixAll cost n (cs.drop (2 * cost.r))

end Scrypt

open Scrypt in
/-- `length` bytes derived from a password and a salt. -/
def scrypt (cost : Cost) (password salt : List UInt8) (length : Nat) : List UInt8 :=
  let seed := deriveKey password salt (128 * cost.r * cost.p)
  let mixed := mixAll cost cost.p (cells (2 * cost.r * cost.p) (Cell.words seed))
  deriveKey password (mixed.flatMap Cell.toBytes) length

end MemberAuth.Hash
