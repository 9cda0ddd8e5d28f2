/-!
White space: Unicode's `White_Space` property, and texts that hold nothing else.
-/
namespace MemberAuth.Text

/-- A character with the `White_Space` property. -/
def isBlank (c : Char) : Bool :=
  let n := c.toNat
  (0x09 ≤ n && n ≤ 0x0D) || n == 0x20 || n == 0x85 || n == 0xA0 || n == 0x1680
    || (0x2000 ≤ n && n ≤ 0x200A) || n == 0x2028 || n == 0x2029 || n == 0x202F || n == 0x205F
    || n == 0x3000

/-- The text is empty or white space throughout. -/
def allBlank (s : String) : Bool :=
  s.toList.all isBlank

def skipBlanks (cs : List Char) : List Char :=
  cs.dropWhile isBlank

theorem allBlank_eq_false_iff {s : String} :
    allBlank s = false ↔ ∃ c ∈ s.toList, isBlank c = false := by
  simp [allBlank]

end MemberAuth.Text
