import MemberAuth.Settings.Value
import MemberAuth.Text.Blank
import MemberAuth.Text.Bytes
import MemberAuth.Text.Decimal
import MemberAuth.Toml.Lexical

/-!
Settings in environment variables: which variables name a setting, and how their values are read. A
value is a truth value, a number, a quoted string or character, a list in brackets or a table in
braces; whatever is none of these to its end stands for itself.
-/
namespace MemberAuth.Settings

open Text

namespace Environment

/-- White space around values. -/
def isSpace (c : Char) : Bool :=
  c == ' ' || c == '\t' || c == '\n' || c == '\x0c' || c == '\r'

def skipSpace (cs : List Char) : List Char :=
  cs.dropWhile isSpace

def isBare (c : Char) : Bool :=
  !(c == ',' || c == '\x7b' || c == '\x7d' || c == '[' || c == ']')

def trim (cs : List Char) : List Char :=
  ((cs.dropWhile isBlank).reverse.dropWhile isBlank).reverse

/-- Digits, with or without a sign that the number may have. -/
def wholeNumber? (cs : List Char) : Option Int :=
  let digits := dropSign cs
  let n : Int := digitsValue digits
  if digits.isEmpty || !digits.all isDigit then none
  else if cs.head? == some '-' then (if n ≤ 0x8000000000000000 then some (-n) else none)
  else if n < UInt64.size then some n
  else none

/-- Whether the text is a number with a point, before or after which digits may be missing, and with
an exponent or without. -/
def isReal (cs : List Char) : Bool :=
  let body := dropSign cs
  let mantissa := body.takeWhile fun c => !isExponentMark c
  let power := body.dropWhile fun c => !isExponentMark c
  let digits := mantissa.takeWhile (· != '.') ++ (mantissa.dropWhile (· != '.')).drop 1
  let powerDigits := dropSign (power.drop 1)
  let powerFits := power.isEmpty || (!powerDigits.isEmpty && powerDigits.all isDigit)
  cs.contains '.' && !digits.isEmpty && digits.all isDigit && powerFits

/-- What a value without quotes and brackets stands for. -/
def bareValue (cs : List Char) : Value :=
  let cs := trim cs
  if isReal cs then .real
  else
    match wholeNumber? cs with
    | some n => .int n
    | none => .text (String.ofList cs)

/-- The characters between double quotes, escapes as they stand. -/
def quotedChars : List Char → Option (List Char × List Char)
  | [] => none
  | '"' :: rest => some ([], rest)
  | '\\' :: c :: rest => (quotedChars rest).map fun (cs, rest) => ('\\' :: c :: cs, rest)
  | c :: rest => (quotedChars rest).map fun (cs, rest) => (c :: cs, rest)

/-- What is kept of the characters before the first escape: as many bytes as they are characters.
Without an escape it is all of them. -/
def keptChars (raw : List Char) : List Char :=
  let before := raw.takeWhile (· != '\\')
  if before.length = raw.length then before else takeBytes before.length before

/-- A string after its opening quote. -/
def quoted? (cs : List Char) : Option (String × List Char) := do
  let (raw, rest) ← quotedChars cs
  let (text, _) ← Toml.basicChars (raw ++ ['"'])
  let escaped := text.drop (raw.takeWhile (· != '\\')).length
  pure (String.ofList (keptChars raw ++ escaped), rest)

abbrev ValueReader := List Char → Option (Value × List Char)

/-- The elements of a list after its bracket or a comma. Each turn takes a character, so the number
of characters is enough fuel. -/
def items? (item : ValueReader) : Nat → List Char → Option (List Value × List Char)
  | 0, _ => none
  | _, ']' :: rest => some ([], rest)
  | fuel + 1, cs => do
    let (v, rest) ← item cs
    match rest with
    | ',' :: rest =>
      let (vs, rest) ← items? item fuel rest
      pure (v :: vs, rest)
    | ']' :: rest => pure ([v], rest)
    | _ => none

/-- A key with white space around it, and the equals sign. -/
def key? (cs : List Char) : Option (String × List Char) := do
  let (name, rest) ← match skipSpace cs with
    | '"' :: rest => quoted? rest
    | cs =>
      let name := cs.takeWhile Toml.isBareChar
      if name.isEmpty then none else some (String.ofList name, cs.dropWhile Toml.isBareChar)
  match skipSpace rest with
  | '=' :: rest => some (name, rest)
  | _ => none

/-- The entries of a table after its brace or a comma. A key given twice has its last value. -/
def entries? (item : ValueReader) : Nat → Entries → List Char → Option (Entries × List Char)
  | 0, _, _ => none
  | _, found, '\x7d' :: rest => some (found, rest)
  | fuel + 1, found, cs => do
    let (name, rest) ← key? cs
    let (v, rest) ← item rest
    let found := setEntry name v found
    match rest with
    | ',' :: rest => entries? item fuel found rest
    | '\x7d' :: rest => pure (found, rest)
    | _ => none

/-- A value with the white space around it, with up to `depth` brackets around any part of it. -/
def value? : Nat → ValueReader
  | 0, _ => none
  | depth + 1, cs => do
    let (v, rest) ← match skipSpace cs with
      | 't' :: 'r' :: 'u' :: 'e' :: rest => some (.flag true, rest)
      | 'f' :: 'a' :: 'l' :: 's' :: 'e' :: rest => some (.flag false, rest)
      | '\x7b' :: rest => (entries? (value? depth) (rest.length + 1) [] rest).map fun (es, rest) =>
        (.table es, rest)
      | '[' :: rest => (items? (value? depth) (rest.length + 1) rest).map fun (vs, rest) =>
        (.list vs, rest)
      | '"' :: rest => (quoted? rest).map fun (s, rest) => (.text s, rest)
      | '\'' :: c :: '\'' :: rest => some (.char c, rest)
      | '\'' :: _ => none
      | cs => some (bareValue (cs.takeWhile isBare), cs.dropWhile isBare)
    pure (v, skipSpace rest)

/-- The value of a variable. There are no more brackets than characters. -/
def readValue (text : String) : Value :=
  match value? (text.toList.length + 1) text.toList with
  | some (v, []) => v
  | _ => .text text

/-- Variables that begin like this, in any case, name settings. -/
def start : String := "commerce_"

/-- Cuts at every pair of underscores, from the left. -/
def splitNested : List Char → List Char → List (List Char)
  | part, [] => [part.reverse]
  | part, '_' :: '_' :: rest => part.reverse :: splitNested [] rest
  | part, '.' :: rest => part.reverse :: splitNested [] rest
  | part, c :: rest => splitNested (c :: part) rest

/-- The path of the setting that a variable names. Blanks around the name and around all that
follows the start are not part of it, and no part of it is empty. -/
def path? (name : String) : Option (List String) :=
  let cs := (trim name.toList).map asciiLower
  if !start.toList.isPrefixOf cs then none
  else
    let parts := splitNested [] (trim (cs.drop start.toList.length))
    if parts.any (·.isEmpty) then none else some (parts.map String.ofList)

/-- A value at the end of a path of tables. -/
def nest : List String → Value → Value
  | [], v => v
  | key :: path, v => .table [(key, nest path v)]

/-- The settings in a list of variables, later ones over earlier ones. -/
def read (environment : List (String × String)) : Value :=
  environment.foldl (fun found (name, text) =>
    match path? name with
    | some path => found.over (nest path (readValue text))
    | none => found) (.table [])

end Environment

end MemberAuth.Settings
