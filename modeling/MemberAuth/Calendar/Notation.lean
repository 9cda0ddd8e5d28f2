import MemberAuth.Calendar.Date
import MemberAuth.Text.Blank
import MemberAuth.Text.Decimal

/-!
The written form of dates, `YYYY-MM-DD`. Years from 0 to 9999 have four digits and no sign; any
other year has a sign and at least four digits. Reading allows white space around each part, and a
signed year of any length.
-/
namespace MemberAuth.Calendar

open Text

/-- A year with four digits, or with its sign and at least four digits. -/
def yearText (year : Int) : List Char :=
  if 0 ≤ year ∧ year ≤ 9999 then padded 4 year.toNat
  else (if year < 0 then '-' else '+') :: padded 4 year.natAbs

def dateText (d : Date) : List Char :=
  yearText d.year ++ '-' :: padded 2 d.month ++ '-' :: padded 2 d.day

/-- A run of at least one and at most `limit` digits, and what follows it. -/
def takeNumber (limit : Nat) (cs : List Char) : Option (Nat × List Char) :=
  let digits := (cs.take limit).takeWhile isDigit
  if digits.isEmpty then none else some (digitsValue digits, cs.drop digits.length)

/-- A year: at most four digits, or a sign and any number of digits. -/
def takeYear (cs : List Char) : Option (Int × List Char) :=
  match cs with
  | '-' :: rest => (takeNumber rest.length rest).map fun (n, tail) => (-(n : Int), tail)
  | '+' :: rest => (takeNumber rest.length rest).map fun (n, tail) => ((n : Int), tail)
  | _ => (takeNumber 4 cs).map fun (n, tail) => ((n : Int), tail)

/-- A hyphen, with any white space before it. -/
def takeHyphen (cs : List Char) : Option (List Char) :=
  match skipBlanks cs with
  | '-' :: rest => some rest
  | _ => none

def parseDate (cs : List Char) : Option Date := do
  let (year, cs) ← takeYear (skipBlanks cs)
  let cs ← takeHyphen cs
  let (month, cs) ← takeNumber 2 (skipBlanks cs)
  let cs ← takeHyphen cs
  let (day, cs) ← takeNumber 2 (skipBlanks cs)
  if (skipBlanks cs).isEmpty then Date.ofYmd? year month day else none

end MemberAuth.Calendar

namespace MemberAuth.Date

def toText (d : Date) : String :=
  String.ofList (Calendar.dateText d)

def parse? (s : String) : Option Date :=
  Calendar.parseDate s.toList

end MemberAuth.Date
