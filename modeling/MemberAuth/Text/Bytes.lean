/-!
Texts as UTF-8 bytes.
-/
namespace MemberAuth.Text

def textBytes (s : String) : List UInt8 :=
  s.toList.flatMap String.utf8EncodeChar

/-- The longest part from the front that takes no more than `n` bytes. -/
def takeBytes : Nat → List Char → List Char
  | _, [] => []
  | n, c :: cs => if c.utf8Size ≤ n then c :: takeBytes (n - c.utf8Size) cs else []

theorem takeBytes_isPrefix (n : Nat) (cs : List Char) : takeBytes n cs <+: cs := by
  induction cs generalizing n with
  | nil => simp [takeBytes]
  | cons c cs ih =>
    unfold takeBytes
    split
    · exact (List.prefix_cons_inj c).2 (ih _)
    · exact List.nil_prefix

/-- Characters of one byte each are all taken. -/
theorem takeBytes_length {cs : List Char} (h : ∀ c ∈ cs, c.utf8Size = 1) :
    takeBytes cs.length cs = cs := by
  induction cs with
  | nil => rfl
  | cons c cs ih => simp_all [takeBytes]

end MemberAuth.Text
