import MemberAuth.Text.Decimal

/-!
Media types as a `Content-Type` header names them, and which of them stand for JSON.
-/
namespace MemberAuth.Http

open Text

/-- The characters of names in HTTP. -/
def isTokenChar (c : Char) : Bool :=
  isAsciiAlphanumeric c || ['!', '#', '$', '%', '&', '\'', '*', '+', '-', '.', '^', '_', '\x60',
    '|', '~'].contains c

namespace MediaType

def isQuotedChar (c : Char) : Bool :=
  0x1F < c.toNat && c.toNat != 0x7F

/-- Where the reading of parameters stands. -/
inductive Place
  /-- Before a name: spaces are passed over. -/
  | start
  | name
  | value
  | unquoted
  /-- After the opening quote of a value, which is not empty. -/
  | opening
  | quoted
  /-- After the closing quote: spaces up to a semicolon. -/
  | closed
  deriving DecidableEq, Repr

def Place.next? (p : Place) (c : Char) : Option Place :=
  match p with
  | start =>
    if c = ' ' then some start
    else if isTokenChar c then some name else none
  | name => if c = '=' then some value else if isTokenChar c then some name else none
  | value => if c = '"' then some opening else if isTokenChar c then some unquoted else none
  | unquoted => if c = ';' then some start else if isTokenChar c then some unquoted else none
  | opening => if isQuotedChar c then some quoted else none
  | quoted => if c = '"' then some closed else if isQuotedChar c then some quoted else none
  | closed => if c = ';' then some start else if c = ' ' then some closed else none

def Place.mayEnd : Place → Bool
  | start | value | unquoted | closed => true
  | name | opening | quoted => false

/-- Whether the text after the first semicolon is a list of parameters. -/
def areParameters (cs : List Char) : Bool :=
  match cs.foldlM Place.next? Place.start with
  | some p => p.mayEnd
  | none => false

def sameName (cs : List Char) (name : String) : Bool :=
  (String.ofList cs).toLower == name

/-- Whether the part after the slash is `json`, or ends in it after its last plus sign. -/
def isJsonSubtype (subtype : List Char) : Bool :=
  let suffix := (subtype.reverse.takeWhile (· != '+')).reverse
  let base := subtype.take (subtype.length - suffix.length - 1)
  if base.isEmpty then sameName subtype "json"
  else sameName base "json" || sameName suffix "json"

/-- Whether a header value names a media type that stands for JSON. -/
def isJson (text : String) : Bool :=
  let cs := text.toList
  let top := cs.takeWhile (· != '/')
  match cs.dropWhile (· != '/') with
  | [] => false
  | _ :: rest =>
    let subtype := rest.takeWhile (· != ';')
    let parameters := (rest.dropWhile (· != ';')).drop 1
    top.all isTokenChar && subtype.all isTokenChar && areParameters parameters
      && sameName top "application" && isJsonSubtype subtype

end MediaType

end MemberAuth.Http
