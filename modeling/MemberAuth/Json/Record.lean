import MemberAuth.Calendar.Notation
import MemberAuth.Json.Skip

/-!
Flat records as JSON: a list of named fields, each an integer, a text or a date. A record is written
as an object in the order of its fields. It is read from an object in any order, with other keys
passed over, or from an array in the order of the fields.
-/
namespace MemberAuth.Json

inductive Shape
  | int64
  | text
  | date
  deriving DecidableEq, Repr

structure Field where
  name : String
  shape : Shape
  deriving DecidableEq, Repr

abbrev Shape.Value : Shape → Type
  | int64 => Int64
  | text => String
  | date => Date

/-- A value for each field. -/
def Row : List Field → Type
  | [] => Unit
  | f :: fs => f.shape.Value × Row fs

/-- The fields read so far. -/
def Draft : List Field → Type
  | [] => Unit
  | f :: fs => Option f.shape.Value × Draft fs

def Draft.blank : (fs : List Field) → Draft fs
  | [] => ()
  | _ :: fs => (none, Draft.blank fs)

/-- The row, once no field is missing. -/
def Draft.complete? : {fs : List Field} → Draft fs → Option (Row fs)
  | [], _ => some ()
  | _ :: _, (v, d) => do
    let v ← v
    let row ← d.complete?
    pure (v, row)

def readValue (s : Shape) (cs : List Char) : Except ReadError (s.Value × List Char) :=
  match s with
  | .int64 => readInt64 cs
  | .text => (readString cs).map fun (text, rest) => (String.ofList text, rest)
  | .date => do
    let (text, rest) ← readString cs
    match Calendar.parseDate text with
    | some d => .ok (d, rest)
    | none => .error .mismatch

def readColon (cs : List Char) : Except ReadError (List Char) :=
  match skipSpace cs with
  | [] => .error .truncated
  | ':' :: rest => .ok rest
  | _ => .error .malformed

/-- Reads what follows a key. A field given twice is a mismatch. -/
def Draft.read (key : List Char) : {fs : List Field} → Draft fs → List Char →
    Except ReadError (Draft fs × List Char)
  | [], _, cs => do
    let rest ← skipValue (← readColon cs)
    pure ((), rest)
  | f :: _, (v, d), cs =>
    if f.name.toList = key then
      match v with
      | some _ => .error .mismatch
      | none => do
        let (v, rest) ← readValue f.shape (← readColon cs)
        pure ((some v, d), rest)
    else do
      let (d, rest) ← d.read key cs
      pure ((v, d), rest)

/-- The start of the next key, or nothing at the closing brace, which is taken. -/
def nextKey (first : Bool) (cs : List Char) : Except ReadError (Option (List Char) × List Char) :=
  match skipSpace cs with
  | [] => .error .truncated
  | '\x7d' :: rest => .ok (none, rest)
  | c :: rest =>
    let key (cs : List Char) : Except ReadError (Option (List Char) × List Char) :=
      match cs with
      | [] => .error .truncated
      | '"' :: rest => (readChars rest).map fun (k, rest) => (some k, rest)
      | _ => .error .malformed
    if first then key (c :: rest)
    else if c = ',' then key (skipSpace rest)
    else .error .malformed

/-- The members of an object after its opening brace. Each turn takes a key, so the number of
characters is enough fuel. -/
def readMembers {fs : List Field} : Nat → Bool → Draft fs → List Char →
    Except ReadError (Draft fs × List Char)
  | 0, _, _, _ => .error .truncated
  | fuel + 1, first, d, cs => do
    match ← nextKey first cs with
    | (none, rest) => pure (d, rest)
    | (some key, rest) =>
      let (d, rest) ← d.read key rest
      readMembers fuel false d rest

/-- Moves to the next element of an array. An array that ends here is too short. -/
def nextElement (first : Bool) (cs : List Char) : Except ReadError (List Char) :=
  match skipSpace cs with
  | [] => .error .truncated
  | ']' :: _ => .error .mismatch
  | c :: rest =>
    if first then .ok (c :: rest)
    else if c = ',' then
      match skipSpace rest with
      | [] => .error .truncated
      | ']' :: _ => .error .malformed
      | other => .ok other
    else .error .malformed

/-- The elements of an array in the order of the fields, after its opening bracket. -/
def readElements : (fs : List Field) → Bool → List Char → Except ReadError (Row fs × List Char)
  | [], _, cs =>
    match skipSpace cs with
    | [] => .error .truncated
    | ']' :: rest => .ok ((), rest)
    | _ => .error .malformed
  | f :: fs, first, cs => do
    let (v, rest) ← readValue f.shape (← nextElement first cs)
    let (row, rest) ← readElements fs false rest
    pure ((v, row), rest)

/-- A record at the front of the text. A missing field is a mismatch. -/
def readRow (fs : List Field) (cs : List Char) : Except ReadError (Row fs × List Char) :=
  match skipSpace cs with
  | '[' :: rest => readElements fs true rest
  | '\x7b' :: rest => do
    let (d, rest) ← readMembers (rest.length + 1) true (Draft.blank fs) rest
    match d.complete? with
    | some row => .ok (row, rest)
    | none => .error .mismatch
  | other => .error (otherKind other)

/-- Ends a reading: only white space may be left. -/
def finish {α : Type} (r : Except ReadError (α × List Char)) : Except ReadError α := do
  let (value, rest) ← r
  if (skipSpace rest).isEmpty then .ok value else .error .malformed

def parseRow (fs : List Field) (text : String) : Except ReadError (Row fs) :=
  finish (readRow fs text.toList)

end MemberAuth.Json
