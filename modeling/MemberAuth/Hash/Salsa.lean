/-!
The Salsa20/8 core: a fixed mixing of sixteen little-endian words.
-/
namespace MemberAuth.Hash

/-- Sixty-four bytes as sixteen little-endian words. -/
abbrev Cell := Vector UInt32 16

namespace Salsa

def rotateLeft (w n : UInt32) : UInt32 :=
  (w <<< n) ||| (w >>> (32 - n))

/-- Updates four words, each from the two updated before it. -/
def quarterRound (v : Cell) (at4 : Fin 16 × Fin 16 × Fin 16 × Fin 16) : Cell :=
  let (a, b, c, d) := at4
  let v := v.set b (v[b] ^^^ rotateLeft (v[a] + v[d]) 7)
  let v := v.set c (v[c] ^^^ rotateLeft (v[b] + v[a]) 9)
  let v := v.set d (v[d] ^^^ rotateLeft (v[c] + v[b]) 13)
  v.set a (v[a] ^^^ rotateLeft (v[d] + v[c]) 18)

/-- The columns of the four by four square, then its rows. -/
def doubleRound (v : Cell) : Cell :=
  [(0, 4, 8, 12), (5, 9, 13, 1), (10, 14, 2, 6), (15, 3, 7, 11),
    (0, 1, 2, 3), (5, 6, 7, 4), (10, 11, 8, 9), (15, 12, 13, 14)].foldl quarterRound v

def core (v : Cell) : Cell :=
  Vector.zipWith (· + ·) v (Nat.repeat doubleRound 4 v)

end Salsa

namespace Cell

def xor (v w : Cell) : Cell :=
  Vector.zipWith (· ^^^ ·) v w

def littleEndian (w : UInt32) : List UInt8 :=
  [w.toUInt8, (w >>> 8).toUInt8, (w >>> 16).toUInt8, (w >>> 24).toUInt8]

def wordOf (a b c d : UInt8) : UInt32 :=
  a.toUInt32 ||| (b.toUInt32 <<< 8) ||| (c.toUInt32 <<< 16) ||| (d.toUInt32 <<< 24)

def words : List UInt8 → List UInt32
  | a :: b :: c :: d :: rest => wordOf a b c d :: words rest
  | _ => []

def ofWords (ws : Array UInt32) : Cell :=
  Vector.ofFn fun i => ws.getD i 0

def toBytes (v : Cell) : List UInt8 :=
  v.toList.flatMap littleEndian

end Cell

end MemberAuth.Hash
