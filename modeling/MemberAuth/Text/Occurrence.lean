/-!
Texts that occur in another text. Main statement: the test finds exactly the pieces of a text.
-/
namespace MemberAuth.Text

/-- Whether a form stands in a text, its characters side by side. -/
def occursIn (form : List Char) : List Char → Bool
  | [] => form.isEmpty
  | c :: cs => form.isPrefixOf (c :: cs) || occursIn form cs

theorem occursIn_iff_infix {form cs : List Char} : occursIn form cs = true ↔ form <:+: cs := by
  induction cs with
  | nil => simp [occursIn]
  | cons c cs ih => simp [occursIn, List.infix_cons_iff, List.isPrefixOf_iff_prefix, ih]

end MemberAuth.Text
