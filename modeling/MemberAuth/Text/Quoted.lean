import MemberAuth.Text.Unprintable

/-!
A single character as messages show it: between single quotes, with escapes for controls, for the
quote itself and for characters that cannot be seen.
-/
namespace MemberAuth.Text

/-- The character between the quotes. Double quotes stand for themselves. -/
def escaped (c : Char) : String :=
  match c with
  | '\x00' => "\\0"
  | '\t' => "\\t"
  | '\r' => "\\r"
  | '\n' => "\\n"
  | '\'' => "\\'"
  | '\\' => "\\\\"
  | _ =>
    if isUnprintable c then
      "\\u\x7b" ++ String.ofList (Nat.toDigits 16 c.toNat) ++ "\x7d"
    else c.toString

def quoted (c : Char) : String :=
  "'" ++ escaped c ++ "'"

end MemberAuth.Text
