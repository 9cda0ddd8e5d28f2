import MemberAuth.Text.Ascii

/-!
Decimal digits: writing a number, writing it at a fixed least width, the value of a digit run, and
the marks that stand before and between digits.
-/
namespace MemberAuth.Text

/-- The digits of `n`, without leading zeros. -/
def decimal (n : Nat) : List Char :=
  Nat.toDigits 10 n

/-- The digits of `n` with zeros in front up to `width`. -/
def padded (width n : Nat) : List Char :=
  (decimal n).leftpad width '0'

/-- The number that a run of digits stands for. -/
def digitsValue (ds : List Char) : Nat :=
  ds.foldl (fun n d => 10 * n + (d.toNat - 48)) 0

def isExponentMark (c : Char) : Bool :=
  c == 'e' || c == 'E'

def dropSign : List Char → List Char
  | '+' :: rest => rest
  | '-' :: rest => rest
  | cs => cs

/-- A number written with digits only and no leading zero. -/
def plainDecimal? (cs : List Char) : Option Nat :=
  match cs with
  | [] => none
  | ['0'] => some 0
  | '0' :: _ => none
  | _ => if cs.all isDigit then some (digitsValue cs) else none

end MemberAuth.Text
