import MemberAuth.Calendar.Date
import MemberAuth.Settings.Value
import MemberAuth.Toml.Lexical

/-!
The scalar values of TOML: truth values, integers in four bases, numbers with a fraction or an
exponent, and dates and times.
-/
namespace MemberAuth.Toml

open Text Settings

/-- Digits with single underscores between them. -/
def isGrouped (isMember : Char → Bool) : List Char → Bool
  | [] => false
  | [d] => isMember d
  | d :: '_' :: rest => isMember d && isGrouped isMember rest
  | d :: rest => isMember d && isGrouped isMember rest

/-- Digits in groups, without a leading zero unless there is one digit. -/
def isWhole (cs : List Char) : Bool :=
  isGrouped isDigit cs && (cs.head? != some '0' || cs.length == 1)

def ungroup (cs : List Char) : List Char :=
  cs.filter (· != '_')

def numeral (base : Nat) (cs : List Char) : Nat :=
  (ungroup cs).foldl (fun n d => n * base + (hexValue? d).getD 0) 0

def inRange (n : Int) : Option Value :=
  if Int64.minValue.toInt ≤ n ∧ n ≤ Int64.maxValue.toInt then some (.int n) else none

def isDigitBelow (base : Nat) (c : Char) : Bool :=
  (hexValue? c).any (· < base)

/-- Digits of a base after its two-character mark. -/
def based? (base : Nat) (cs : List Char) : Option Value :=
  if isGrouped (isDigitBelow base) cs then inRange (numeral base cs) else none

def integer? (token : List Char) : Option Value :=
  match token with
  | '0' :: 'x' :: rest => based? 16 rest
  | '0' :: 'o' :: rest => based? 8 rest
  | '0' :: 'b' :: rest => based? 2 rest
  | _ =>
    if isWhole (dropSign token) then
      let n : Int := numeral 10 (dropSign token)
      inRange (if token.head? == some '-' then -n else n)
    else none

/-- Whether `n * 10 ^ exponent` is closer to `2 ^ 1024` than to any double below, or larger. -/
def isTooLarge (n : Nat) (exponent : Int) : Bool :=
  let size : Int := (decimal n).length + exponent
  if n == 0 || size < 300 then false
  else if 320 < size then true
  else Json.doubleLimit * Nat.pow 10 (-exponent).toNat ≤ n * Nat.pow 10 exponent.toNat

def isExponent (cs : List Char) : Bool :=
  isGrouped isDigit (dropSign cs)

def signed (cs : List Char) : Int :=
  let n : Int := numeral 10 (dropSign cs)
  if cs.head? == some '-' then -n else n

/-- A number with a fraction, an exponent or both. One that is too large is refused, unless it is
negative. -/
def real? (token : List Char) : Option Value :=
  let body := dropSign token
  let mantissa := body.takeWhile fun c => !isExponentMark c
  let power := body.dropWhile fun c => !isExponentMark c
  let whole := mantissa.takeWhile (· != '.')
  let fraction := mantissa.dropWhile (· != '.')
  let powerFits := power.isEmpty || isExponent (power.drop 1)
  let fractionFits := fraction.isEmpty || isGrouped isDigit (fraction.drop 1)
  if (power.isEmpty && fraction.isEmpty) || !isWhole whole || !powerFits || !fractionFits then none
  else
    let digits := ungroup (fraction.drop 1)
    let exponent := signed (power.drop 1) - digits.length
    if token.head? != some '-' && isTooLarge (numeral 10 (whole ++ digits)) exponent then none
    else some .real

def named? (token : List Char) : Option Value :=
  match String.ofList token with
  | "true" => some (.flag true)
  | "false" => some (.flag false)
  | _ =>
    match String.ofList (dropSign token) with
    | "inf" => some .real
    | "nan" => some .real
    | _ => none

def isTokenChar (c : Char) : Bool :=
  isAsciiAlphanumeric c || c == '_' || c == '+' || c == '-' || c == '.'

/-- Exactly `n` digits. -/
def digits? (n : Nat) (cs : List Char) : Option (Nat × List Char) :=
  let ds := (cs.take n).takeWhile isDigit
  if ds.length = n then some (digitsValue ds, cs.drop n) else none

def date? (cs : List Char) : Option (List Char) := do
  let (year, cs) ← digits? 4 cs
  let (month, cs) ← digits? 2 (← expect? '-' cs)
  let (day, cs) ← digits? 2 (← expect? '-' cs)
  if 1 ≤ month ∧ month ≤ 12 ∧ 1 ≤ day ∧ day ≤ Calendar.daysInMonth year month then some cs else none

def hourMinute? (cs : List Char) : Option (List Char) := do
  let (hour, cs) ← digits? 2 cs
  let (minute, cs) ← digits? 2 (← expect? ':' cs)
  if hour ≤ 23 ∧ minute ≤ 59 then some cs else none

def time? (cs : List Char) : Option (List Char) := do
  let cs ← hourMinute? cs
  let (second, cs) ← digits? 2 (← expect? ':' cs)
  if 60 < second then none
  match cs with
  | '.' :: c :: rest => some (if isDigit c then rest.dropWhile isDigit else '.' :: c :: rest)
  | _ => some cs

/-- A time offset, if one follows. -/
def dropOffset (cs : List Char) : List Char :=
  match cs with
  | 'Z' :: rest => rest
  | 'z' :: rest => rest
  | '+' :: rest => (hourMinute? rest).getD cs
  | '-' :: rest => (hourMinute? rest).getD cs
  | _ => cs

/-- A date with an optional time after it, or a time alone. -/
def dateTime? (cs : List Char) : Option (List Char) :=
  match date? cs with
  | none => time? cs
  | some rest =>
    match rest with
    | c :: after =>
      if c = 'T' || c = 't' || c = ' ' then
        match time? after with
        | some rest => some (dropOffset rest)
        | none => some rest
      else some rest
    | [] => some []

/-- A date or time stands as a table with one entry that no setting has. -/
def dateTimeValue (cs : List Char) : Value :=
  .table [("$__toml_private_datetime", .text (String.ofList cs))]

/-- A value that is no string, array or table. -/
def scalarValue? (cs : List Char) : Option (Value × List Char) :=
  match dateTime? cs with
  | some rest => some (dateTimeValue (cs.take (cs.length - rest.length)), rest)
  | none => do
    let token := cs.takeWhile isTokenChar
    let value ← (named? token).or ((integer? token).or (real? token))
    pure (value, cs.dropWhile isTokenChar)

end MemberAuth.Toml
