import MemberAuth.Json.Scalar

/-!
The pieces of a TOML text: white space, comments, line ends, keys and the four kinds of string. A
reader takes characters from the front and gives nothing where they do not fit.
-/
namespace MemberAuth.Toml

open Text

def isWhite (c : Char) : Bool :=
  c == ' ' || c == '\t'

def skipWhite (cs : List Char) : List Char :=
  cs.dropWhile isWhite

/-- A character that may stand in comments and literal strings: a tab, or none of the controls. -/
def isPlain (c : Char) : Bool :=
  c == '\t' || (0x20 ≤ c.toNat && c.toNat != 0x7F)

/-- A line feed, with a carriage return before it or without. -/
def newline? : List Char → Option (List Char)
  | '\n' :: rest => some rest
  | '\r' :: '\n' :: rest => some rest
  | _ => none

/-- The rest of a line that may hold a comment and nothing else. -/
def lineEnd? (cs : List Char) : Option (List Char) :=
  let rest := match skipWhite cs with
    | '#' :: rest => rest.dropWhile isPlain
    | other => other
  match rest with
  | [] => some []
  | other => newline? other

/-- Passes over white space, line ends and comments. Where a comment breaks off it stops. -/
def skipTrivia : Bool → List Char → List Char
  | _, [] => []
  | _, '\n' :: rest => skipTrivia false rest
  | _, '\r' :: '\n' :: rest => skipTrivia false rest
  | true, c :: rest => if isPlain c then skipTrivia true rest else c :: rest
  | false, c :: rest =>
    if isWhite c then skipTrivia false rest
    else if c = '#' then skipTrivia true rest
    else c :: rest

/-- The character that a run of hexadecimal digits numbers. -/
def scalar? (digits : List Char) : Option Char := do
  let n := (← digits.mapM hexValue?).foldl (fun n d => n * 16 + d) 0
  if n < 0xD800 ∨ (0xDFFF < n ∧ n < 0x110000) then some (Char.ofNat n) else none

def simpleEscape? : Char → Option Char
  | 'b' => some '\x08'
  | 't' => some '\t'
  | 'n' => some '\n'
  | 'f' => some '\x0c'
  | 'r' => some '\r'
  | '"' => some '"'
  | '\\' => some '\\'
  | _ => none

abbrev TextReader := List Char → Option (List Char × List Char)

def consText (c : Char) (r : Option (List Char × List Char)) : Option (List Char × List Char) :=
  r.map fun (cs, rest) => (c :: cs, rest)

/-- A string in double quotes, after the first. -/
def basicChars : TextReader
  | [] => none
  | '"' :: rest => some ([], rest)
  | '\\' :: 'u' :: a :: b :: c :: d :: rest => do
    consText (← scalar? [a, b, c, d]) (basicChars rest)
  | '\\' :: 'U' :: a :: b :: c :: d :: e :: f :: g :: h :: rest => do
    consText (← scalar? [a, b, c, d, e, f, g, h]) (basicChars rest)
  | '\\' :: c :: rest => do consText (← simpleEscape? c) (basicChars rest)
  | c :: rest => if isPlain c && c != '\\' then consText c (basicChars rest) else none

/-- A string in single quotes, after the first. -/
def literalChars : TextReader
  | [] => none
  | '\'' :: rest => some ([], rest)
  | c :: rest => if isPlain c then consText c (literalChars rest) else none

/-- A string in three double quotes, after the first three and a line end. Up to two more quotes may
come before the closing three. While `trim` is set, white space and line ends are passed over. -/
def basicLines : Bool → TextReader
  | _, [] => none
  | true, '\n' :: rest => basicLines true rest
  | true, '\r' :: '\n' :: rest => basicLines true rest
  | true, ' ' :: rest => basicLines true rest
  | true, '\t' :: rest => basicLines true rest
  | _, '"' :: '"' :: '"' :: '"' :: '"' :: rest => some (['"', '"'], rest)
  | _, '"' :: '"' :: '"' :: '"' :: rest => some (['"'], rest)
  | _, '"' :: '"' :: '"' :: rest => some ([], rest)
  | _, '\\' :: 'u' :: a :: b :: c :: d :: rest => do
    consText (← scalar? [a, b, c, d]) (basicLines false rest)
  | _, '\\' :: 'U' :: a :: b :: c :: d :: e :: f :: g :: h :: rest => do
    consText (← scalar? [a, b, c, d, e, f, g, h]) (basicLines false rest)
  | _, '\\' :: c :: rest =>
    if (newline? (skipWhite (c :: rest))).isSome then basicLines true (c :: rest)
    else do consText (← simpleEscape? c) (basicLines false rest)
  | _, '\n' :: rest => consText '\n' (basicLines false rest)
  | _, '\r' :: '\n' :: rest => consText '\n' (basicLines false rest)
  | _, c :: rest => if isPlain c && c != '\\' then consText c (basicLines false rest) else none

/-- A string in three single quotes, after the first three and a line end. -/
def literalLines : TextReader
  | [] => none
  | '\'' :: '\'' :: '\'' :: '\'' :: '\'' :: rest => some (['\'', '\''], rest)
  | '\'' :: '\'' :: '\'' :: '\'' :: rest => some (['\''], rest)
  | '\'' :: '\'' :: '\'' :: rest => some ([], rest)
  | '\n' :: rest => consText '\n' (literalLines rest)
  | '\r' :: '\n' :: rest => consText '\n' (literalLines rest)
  | c :: rest => if isPlain c then consText c (literalLines rest) else none

/-- Drops a line end that directly follows the opening quotes. -/
def dropNewline (cs : List Char) : List Char :=
  (newline? cs).getD cs

/-- A string of any kind. -/
def string? : TextReader
  | '"' :: '"' :: '"' :: rest => basicLines false (dropNewline rest)
  | '\'' :: '\'' :: '\'' :: rest => literalLines (dropNewline rest)
  | '"' :: rest => basicChars rest
  | '\'' :: rest => literalChars rest
  | _ => none

def isBareChar (c : Char) : Bool :=
  isAsciiAlphanumeric c || c == '_' || c == '-'

/-- One part of a key: bare, or a string on one line. -/
def simpleKey? : TextReader
  | '"' :: rest => basicChars rest
  | '\'' :: rest => literalChars rest
  | cs =>
    let name := cs.takeWhile isBareChar
    if name.isEmpty then none else some (name, cs.dropWhile isBareChar)

/-- The parts of a key, separated by dots, with white space around each. Each turn takes a
character, so the number of characters is enough fuel. -/
def keyParts? : Nat → List Char → Option (List String × List Char)
  | 0, _ => none
  | fuel + 1, cs => do
    let (part, rest) ← simpleKey? (skipWhite cs)
    match skipWhite rest with
    | '.' :: rest =>
      let (parts, rest) ← keyParts? fuel rest
      pure (String.ofList part :: parts, rest)
    | rest => pure ([String.ofList part], rest)

/-- Keys and values are nested less deep than this. -/
def depthLimit : Nat := 80

/-- A key as its last part and the parts before it. -/
def key? (cs : List Char) : Option (List String × String × List Char) := do
  let (parts, rest) ← keyParts? (cs.length + 1) cs
  if depthLimit ≤ parts.length then none
  let last ← parts.getLast?
  pure (parts.dropLast, last, rest)

end MemberAuth.Toml
