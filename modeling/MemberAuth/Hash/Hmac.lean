import MemberAuth.Hash.Sha256

/-!
Keyed hashing with SHA-256 (HMAC), and the key derivation built on it (PBKDF2) with one iteration,
which is all that scrypt asks for.
-/
namespace MemberAuth.Hash

/-- The key as one block: a key longer than a block is hashed, and zeros fill the rest. -/
def blockKey (key : List UInt8) : List UInt8 :=
  let short := if 64 < key.length then sha256 key else key
  short ++ List.replicate (64 - short.length) 0

def hmac (key message : List UInt8) : List UInt8 :=
  let k := blockKey key
  sha256 (k.map (· ^^^ 0x5c) ++ sha256 (k.map (· ^^^ 0x36) ++ message))

/-- `length` bytes from a password and a salt: the blocks numbered from one, cut at the end. -/
def deriveKey (password salt : List UInt8) (length : Nat) : List UInt8 :=
  ((List.range ((length + 31) / 32)).flatMap fun i =>
    hmac password (salt ++ bigEndian (UInt32.ofNat (i + 1)))).take length

theorem length_hmac (key message : List UInt8) : (hmac key message).length = 32 :=
  length_sha256 _

end MemberAuth.Hash
