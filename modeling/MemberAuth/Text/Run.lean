/-!
Sets of characters kept as runs of code points. A run names its first and last code point and the
distance between neighbours: letters that alternate between two cases make runs of distance two.
-/
namespace MemberAuth.Text

structure Run where
  first : Nat
  last : Nat
  step : Nat

def Run.has (r : Run) (code : Nat) : Bool :=
  r.first ≤ code && code ≤ r.last && (code - r.first) % r.step == 0

/-- Whether `c` lies in one of the runs. -/
def inRuns (table : List Run) (c : Char) : Bool :=
  table.any (·.has c.toNat)

end MemberAuth.Text
