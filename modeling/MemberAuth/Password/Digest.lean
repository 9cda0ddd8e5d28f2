import MemberAuth.Hash.Sha256
import MemberAuth.Text.Bytes
import MemberAuth.Text.Hex

/-!
The fingerprint under which a verified password is remembered.
-/
namespace MemberAuth

/-- The SHA-256 digest of the text in lower-case hexadecimal. -/
def passwordDigest (password : String) : String :=
  Text.hexText (Hash.sha256 (Text.textBytes password))

end MemberAuth
