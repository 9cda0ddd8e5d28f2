/-!
Base64 in the standard alphabet without padding. Reading is strict: the bits that the last character
leaves over are zero, so every text that is read is the one that writing gives.
-/
namespace MemberAuth.Text.Base64

/-- The character for a value below 64. -/
def letter (n : Nat) : Char :=
  if n < 26 then Char.ofNat (65 + n)
  else if n < 52 then Char.ofNat (71 + n)
  else if n < 62 then Char.ofNat (n - 4)
  else if n = 62 then '+' else '/'

def value? (c : Char) : Option Nat :=
  if 'A' ≤ c && c ≤ 'Z' then some (c.toNat - 65)
  else if 'a' ≤ c && c ≤ 'z' then some (c.toNat - 71)
  else if '0' ≤ c && c ≤ '9' then some (c.toNat + 4)
  else if c = '+' then some 62
  else if c = '/' then some 63
  else none

def encode : List UInt8 → List Char
  | [] => []
  | [a] => [letter (a.toNat / 4), letter (a.toNat % 4 * 16)]
  | [a, b] =>
    [letter (a.toNat / 4), letter (a.toNat % 4 * 16 + b.toNat / 16), letter (b.toNat % 16 * 4)]
  | a :: b :: c :: rest =>
    letter (a.toNat / 4) :: letter (a.toNat % 4 * 16 + b.toNat / 16)
      :: letter (b.toNat % 16 * 4 + c.toNat / 64) :: letter (c.toNat % 64) :: encode rest

/-- The bytes of a run of six-bit values, if no set bit is left over. -/
def bytes? : List Nat → Option (List UInt8)
  | [] => some []
  | [_] => none
  | [u, v] => if v % 16 = 0 then some [UInt8.ofNat (u * 4 + v / 16)] else none
  | [u, v, w] =>
    if w % 4 = 0 then
      some [UInt8.ofNat (u * 4 + v / 16), UInt8.ofNat (v % 16 * 16 + w / 4)]
    else none
  | u :: v :: w :: x :: rest => do
    let tail ← bytes? rest
    pure (UInt8.ofNat (u * 4 + v / 16) :: UInt8.ofNat (v % 16 * 16 + w / 4)
      :: UInt8.ofNat (w % 4 * 64 + x) :: tail)

def decode (cs : List Char) : Option (List UInt8) := do
  bytes? (← cs.mapM value?)

end MemberAuth.Text.Base64
