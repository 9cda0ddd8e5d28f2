import MemberAuth.Json.Record

/-!
Writing JSON: strings with their escapes, and records on one line or one field a line.
-/
namespace MemberAuth.Json

open Text

/-- Quotes, backslashes and control characters are escaped, all else stands as it is. -/
def escapeChar (c : Char) : List Char :=
  match c with
  | '"' => ['\\', '"']
  | '\\' => ['\\', '\\']
  | '\x08' => ['\\', 'b']
  | '\x0c' => ['\\', 'f']
  | '\n' => ['\\', 'n']
  | '\r' => ['\\', 'r']
  | '\t' => ['\\', 't']
  | _ =>
    if c.toNat < 0x20 then
      ['\\', 'u', '0', '0', hexDigit (c.toNat / 16), hexDigit (c.toNat % 16)]
    else [c]

def writeString (text : List Char) : List Char :=
  '"' :: text.flatMap escapeChar ++ ['"']

/-- An integer in decimal, with a minus sign where it is negative. -/
def writeInt (n : Int) : List Char :=
  if n < 0 then '-' :: decimal n.natAbs else decimal n.natAbs

def writeValue : (s : Shape) → s.Value → List Char
  | .int64, v => writeInt v.toInt
  | .text, v => writeString v.toList
  | .date, v => writeString (Calendar.dateText v)

/-- Each field as its key, `colon` and its value. -/
def writeFields (colon : List Char) : (fs : List Field) → Row fs → List (List Char)
  | [], _ => []
  | f :: fs, (v, row) =>
    (writeString f.name.toList ++ colon ++ writeValue f.shape v) :: writeFields colon fs row

/-- The record on one line without white space. -/
def writeRow (fs : List Field) (row : Row fs) : List Char :=
  '\x7b' :: [','].intercalate (writeFields [':'] fs row) ++ ['\x7d']

/-- The record with one field a line, indented by two spaces. -/
def writeRowLines (fs : List Field) (row : Row fs) : List Char :=
  '\x7b' :: ['\n', ' ', ' '] ++ [',', '\n', ' ', ' '].intercalate (writeFields [':', ' '] fs row)
    ++ ['\n', '\x7d']

def rowText (fs : List Field) (row : Row fs) : String :=
  String.ofList (writeRow fs row)

def rowLines (fs : List Field) (row : Row fs) : String :=
  String.ofList (writeRowLines fs row)

end MemberAuth.Json
