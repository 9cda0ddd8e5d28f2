import MemberAuth.Json.Scalar

/-!
Passing over a JSON value whose content does not matter, to any depth.
-/
namespace MemberAuth.Json

open Text

/-- Passes over the characters of a string. Only the form of its escapes is looked at. -/
def skipChars : List Char → Except ReadError (List Char)
  | [] => .error .truncated
  | '"' :: rest => .ok rest
  | ['\\'] => .error .truncated
  | '\\' :: 'u' :: a :: b :: c :: d :: rest =>
    match hexQuad? a b c d with
    | none => .error .malformed
    | some _ => skipChars rest
  | '\\' :: 'u' :: rest => .error (hexError rest)
  | '\\' :: c :: rest =>
    match simpleEscape? c with
    | some _ => skipChars rest
    | none => .error .malformed
  | c :: rest => if c.toNat < 0x20 then .error .malformed else skipChars rest

/-- Drops a run of digits that may not be empty. -/
def skipDigits (cs : List Char) : Except ReadError (List Char) :=
  match cs with
  | c :: _ => if isDigit c then .ok (cs.dropWhile isDigit) else .error .malformed
  | [] => .error .malformed

def skipExponent (cs : List Char) : Except ReadError (List Char) :=
  match cs with
  | c :: rest =>
    if isExponentMark c then
      match rest with
      | '+' :: rest => skipDigits rest
      | '-' :: rest => skipDigits rest
      | _ => skipDigits rest
    else .ok cs
  | [] => .ok []

/-- Passes over a number without its sign. A number that breaks off is malformed. -/
def skipMagnitude (cs : List Char) : Except ReadError (List Char) := do
  let rest ← match cs with
    | '0' :: rest =>
      if (rest.head?.map isDigit).getD false then .error .malformed else .ok rest
    | _ => skipDigits cs
  match rest with
  | '.' :: rest => skipExponent (← skipDigits rest)
  | _ => skipExponent rest

inductive Bracket
  | square
  | curly
  deriving DecidableEq, Repr

/-- What a scalar or an opening bracket leaves: the rest, and the bracket. -/
def skipHead (cs : List Char) : Except ReadError (Option Bracket × List Char) :=
  match skipSpace cs with
  | [] => .error .truncated
  | '[' :: rest => .ok (some .square, rest)
  | '\x7b' :: rest => .ok (some .curly, rest)
  | 'n' :: rest => (readWord ['u', 'l', 'l'] rest).map (none, ·)
  | 't' :: rest => (readWord ['r', 'u', 'e'] rest).map (none, ·)
  | 'f' :: rest => (readWord ['a', 'l', 's', 'e'] rest).map (none, ·)
  | '"' :: rest => (skipChars rest).map (none, ·)
  | '-' :: rest => (skipMagnitude rest).map (none, ·)
  | c :: rest =>
    if isDigit c then (skipMagnitude (c :: rest)).map (none, ·) else .error .malformed

/-- A key and the colon after it. -/
def skipKey (cs : List Char) : Except ReadError (List Char) :=
  match skipSpace cs with
  | [] => .error .truncated
  | '"' :: rest => do
    match skipSpace (← skipChars rest) with
    | [] => .error .truncated
    | ':' :: rest => .ok rest
    | _ => .error .malformed
  | _ => .error .malformed

/-- Closes brackets from the inside out until a further element follows or none is open. `fresh`
says that the innermost bracket has just been opened. -/
def skipClose : Bool → List Bracket → List Char →
    Except ReadError (List Bracket × List Char)
  | _, [], cs => .ok ([], cs)
  | fresh, b :: outer, cs =>
    match skipSpace cs, b with
    | [], _ => .error .truncated
    | ']' :: rest, .square => skipClose false outer rest
    | '\x7d' :: rest, .curly => skipClose false outer rest
    | c :: rest, _ =>
      if fresh then .ok (b :: outer, c :: rest)
      else if c = ',' then .ok (b :: outer, rest)
      else .error .malformed

/-- Passes over the elements that the open brackets still hold. Each turn takes a character, so the
number of characters is enough fuel. -/
def skipElements : Nat → List Bracket → List Char → Except ReadError (List Char)
  | 0, _, _ => .error .truncated
  | fuel + 1, opened, cs => do
    let cs ← match opened with
      | .curly :: _ => skipKey cs
      | _ => .ok cs
    let (bracket, rest) ← skipHead cs
    let (opened, rest) ← match bracket with
      | some b => skipClose true (b :: opened) rest
      | none => skipClose false opened rest
    if opened.isEmpty then .ok rest else skipElements fuel opened rest

/-- Passes over one value. -/
def skipValue (cs : List Char) : Except ReadError (List Char) :=
  skipElements (cs.length + 1) [] cs

end MemberAuth.Json
