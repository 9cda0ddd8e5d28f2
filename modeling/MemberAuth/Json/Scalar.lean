import MemberAuth.Text.Decimal
import MemberAuth.Text.Hex

/-!
Reading the scalar values of a JSON text. A reader takes characters from the front and gives the
value with what is left. The first problem from the left decides which error is reported.
-/
namespace MemberAuth.Json

open Text

inductive ReadError
  /-- The text ends before the value does. -/
  | truncated
  /-- The text is not JSON. -/
  | malformed
  /-- The value is JSON but not of the kind asked for. -/
  | mismatch
  deriving DecidableEq, Repr

abbrev Reader (α : Type) := List Char → Except ReadError (α × List Char)

def isSpace (c : Char) : Bool :=
  c == ' ' || c == '\t' || c == '\n' || c == '\r'

def skipSpace (cs : List Char) : List Char :=
  cs.dropWhile isSpace

/-- The number of four hexadecimal digits. -/
def hexQuad? (a b c d : Char) : Option Nat := do
  pure ((((← hexValue? a) * 16 + (← hexValue? b)) * 16 + (← hexValue? c)) * 16 + (← hexValue? d))

/-- What is wrong where four hexadecimal digits do not follow. -/
def hexError (cs : List Char) : ReadError :=
  if 4 ≤ (String.ofList cs).utf8ByteSize then .malformed else .truncated

def isHighHalf (n : Nat) : Bool :=
  0xD800 ≤ n && n ≤ 0xDBFF

def isLowHalf (n : Nat) : Bool :=
  0xDC00 ≤ n && n ≤ 0xDFFF

/-- The character beyond the first plane that two halves make. -/
def joinHalves (high low : Nat) : Char :=
  Char.ofNat (0x10000 + (high - 0xD800) * 0x400 + (low - 0xDC00))

def simpleEscape? : Char → Option Char
  | '"' => some '"'
  | '\\' => some '\\'
  | '/' => some '/'
  | 'b' => some '\x08'
  | 'f' => some '\x0c'
  | 'n' => some '\n'
  | 'r' => some '\r'
  | 't' => some '\t'
  | _ => none

/-- What is wrong where the second half of a pair does not follow. -/
def halfError : List Char → ReadError
  | [] => .truncated
  | ['\\'] => .truncated
  | '\\' :: 'u' :: rest => hexError rest
  | _ => .malformed

def consChar (c : Char) (r : Except ReadError (List Char × List Char)) :
    Except ReadError (List Char × List Char) :=
  r.map fun (cs, rest) => (c :: cs, rest)

/-- The characters of a string after its opening quote. -/
def readChars : Reader (List Char)
  | [] => .error .truncated
  | '"' :: rest => .ok ([], rest)
  | ['\\'] => .error .truncated
  | '\\' :: 'u' :: a :: b :: c :: d :: rest =>
    match hexQuad? a b c d with
    | none => .error .malformed
    | some n =>
      if isLowHalf n then .error .malformed
      else if isHighHalf n then
        match rest with
        | '\\' :: 'u' :: e :: f :: g :: h :: rest =>
          match hexQuad? e f g h with
          | none => .error .malformed
          | some m =>
            if isLowHalf m then consChar (joinHalves n m) (readChars rest) else .error .malformed
        | _ => .error (halfError rest)
      else consChar (Char.ofNat n) (readChars rest)
  | '\\' :: 'u' :: rest => .error (hexError rest)
  | '\\' :: c :: rest =>
    match simpleEscape? c with
    | some x => consChar x (readChars rest)
    | none => .error .malformed
  | c :: rest => if c.toNat < 0x20 then .error .malformed else consChar c (readChars rest)

/-- The rest of a literal such as `true` after its first letter. -/
def readWord : List Char → List Char → Except ReadError (List Char)
  | [], cs => .ok cs
  | _ :: _, [] => .error .truncated
  | w :: ws, c :: cs => if c = w then readWord ws cs else .error .malformed

/-- Takes digits as long as the number fits 64 bits; also counts the digits taken. -/
def gather : Nat → List Char → Nat × Nat
  | n, [] => (n, 0)
  | n, d :: ds =>
    let next := n * 10 + (d.toNat - 48)
    if next < UInt64.size then
      let (m, k) := gather next ds
      (m, k + 1)
    else (n, 0)

/-- The nearest number with 53 significant bits, ties to even. -/
def roundSignificant (n : Nat) : Nat :=
  let shift := n.log2 - 52
  let unit := Nat.pow 2 shift
  let low := n % unit
  let base := n / unit
  let up := unit < 2 * low || (2 * low == unit && base % 2 == 1)
  (if up then base + 1 else base) * unit

/-- Half way from the largest double to the next power of two; from here on numbers round to
infinity. -/
def doubleLimit : Nat :=
  0x3FFFFFFFFFFFFF * Nat.pow 2 970

/-- Whether a significand with a power of ten is too large for a double. -/
def overflows (significand : Nat) (exponent : Int) : Bool :=
  significand != 0 && 0 ≤ exponent &&
    (308 < exponent ||
      doubleLimit ≤ roundSignificant significand * roundSignificant (Nat.pow 10 exponent.toNat))

/-- Ends a number that is not whole. -/
def readScaled (significand : Nat) (exponent : Int) (rest : List Char) :
    Except ReadError (Option Int × List Char) :=
  if overflows significand exponent then .error .malformed else .ok (none, rest)

/-- The exponent after its letter. -/
def readExponent (significand : Nat) (exponent : Int) (cs : List Char) :
    Except ReadError (Option Int × List Char) :=
  let (negative, cs) := match cs with
    | '+' :: rest => (false, rest)
    | '-' :: rest => (true, rest)
    | _ => (false, cs)
  match cs with
  | [] => .error .truncated
  | c :: _ =>
    if !isDigit c then .error .malformed
    else
      let n : Int := digitsValue (cs.takeWhile isDigit)
      readScaled significand (if negative then exponent - n else exponent + n)
        (cs.dropWhile isDigit)

/-- The digits after a decimal point, and an exponent. -/
def readFraction (significand : Nat) (exponent : Int) (cs : List Char) :
    Except ReadError (Option Int × List Char) :=
  match cs with
  | [] => .error .truncated
  | c :: _ =>
    if !isDigit c then .error .malformed
    else
      let (significand, taken) := gather significand (cs.takeWhile isDigit)
      let exponent := exponent - (taken : Int)
      match cs.dropWhile isDigit with
      | [] => readScaled significand exponent []
      | m :: rest =>
        if isExponentMark m then readExponent significand exponent rest
        else readScaled significand exponent (m :: rest)

/-- A number without its sign. The value is given where it is whole and fits its width: an integer
below `2 ^ 64`, or a negative one not below `-2 ^ 63`. -/
def readMagnitude (negative : Bool) (cs : List Char) :
    Except ReadError (Option Int × List Char) :=
  match cs with
  | [] => .error .truncated
  | c :: next =>
    let digits := cs.takeWhile isDigit
    let (significand, taken) := gather 0 digits
    let exponent : Int := digits.length - taken
    if !isDigit c then .error .malformed
    else if c = '0' && (next.head?.map isDigit).getD false then .error .malformed
    else
      let whole (rest : List Char) : Except ReadError (Option Int × List Char) :=
        if exponent ≠ 0 then readScaled significand exponent rest
        else if !negative then .ok (some significand, rest)
        else if significand = 0 ∨ 0x8000000000000000 < significand then .ok (none, rest)
        else .ok (some (-(significand : Int)), rest)
      match cs.dropWhile isDigit with
      | [] => whole []
      | m :: rest =>
        if m = '.' then readFraction significand exponent rest
        else if isExponentMark m then readExponent significand exponent rest
        else whole (m :: rest)

def readNumber (cs : List Char) : Except ReadError (Option Int × List Char) :=
  match cs with
  | '-' :: rest => readMagnitude true rest
  | _ => readMagnitude false cs

/-- What to report where a value of another kind stands. A scalar is read through first, and its own
error goes before the mismatch. -/
def otherKind (cs : List Char) : ReadError :=
  let after {α : Type} (r : Except ReadError α) : ReadError :=
    match r with
    | .error e => e
    | .ok _ => .mismatch
  match cs with
  | [] => .truncated
  | 'n' :: rest => after (readWord ['u', 'l', 'l'] rest)
  | 't' :: rest => after (readWord ['r', 'u', 'e'] rest)
  | 'f' :: rest => after (readWord ['a', 'l', 's', 'e'] rest)
  | '"' :: rest => after (readChars rest)
  | '[' :: _ => .mismatch
  | '\x7b' :: _ => .mismatch
  | c :: _ => if c = '-' || isDigit c then after (readNumber cs) else .malformed

/-- A string, after white space. -/
def readString (cs : List Char) : Except ReadError (List Char × List Char) :=
  match skipSpace cs with
  | '"' :: rest => readChars rest
  | other => .error (otherKind other)

def readInt64 (cs : List Char) : Except ReadError (Int64 × List Char) :=
  match skipSpace cs with
  | [] => .error .truncated
  | c :: rest =>
    if c = '-' || isDigit c then
      match readNumber (c :: rest) with
      | .error e => .error e
      | .ok (some n, rest) =>
        if Int64.minValue.toInt ≤ n ∧ n ≤ Int64.maxValue.toInt then .ok (Int64.ofInt n, rest)
        else .error .mismatch
      | .ok (none, _) => .error .mismatch
    else .error (otherKind (c :: rest))

end MemberAuth.Json
