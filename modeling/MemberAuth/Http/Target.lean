import MemberAuth.Text.Decimal

/-!
Request targets: the path that one leads to, and which texts are no targets. A target is a path with
an optional query, a full address, an authority alone, or an asterisk.
-/
namespace MemberAuth.Http

open Text

namespace Target

/-- In bytes. -/
def maxLength : Nat := 65534

/-- Characters of a path. Those beyond ASCII, braces and double quotes are let through. -/
def isPathChar (c : Char) : Bool :=
  let n := c.toNat
  n == 0x21 || (0x24 ≤ n && n ≤ 0x3B) || n == 0x3D || (0x40 ≤ n && n ≤ 0x5F)
    || (0x61 ≤ n && n ≤ 0x7A) || n == 0x7C || n == 0x7E || 0x80 ≤ n
    || n == 0x22 || n == 0x7B || n == 0x7D

def isQueryChar (c : Char) : Bool :=
  let n := c.toNat
  n == 0x21 || (0x24 ≤ n && n ≤ 0x3B) || n == 0x3D || (0x3F ≤ n && n != 0x7F)

/-- The path, if the rest is a query or a fragment in order. An empty path is the root. -/
def originPath? (cs : List Char) : Option (List Char) :=
  let path := cs.takeWhile fun c => c != '?' && c != '#'
  let query := match cs.dropWhile fun c => c != '?' && c != '#' with
    | '?' :: rest => rest.takeWhile (· != '#')
    | _ => []
  if path.all isPathChar && query.all isQueryChar then
    some (if path.isEmpty then ['/'] else path)
  else none

def isSchemeChar (c : Char) : Bool :=
  isAsciiAlphanumeric c || c == '+' || c == '-' || c == '.' || c == '~'

/-- What follows the scheme of a full address. A scheme has at most 64 characters; the two common
ones need not be followed by anything more. -/
def afterScheme? (cs : List Char) : Option (Option (List Char)) :=
  let scheme := cs.takeWhile isSchemeChar
  match cs.dropWhile isSchemeChar with
  | ':' :: '/' :: '/' :: rest => if 64 < scheme.length then none else some (some rest)
  | _ => some none

/-- What is counted while an authority is read. -/
structure Counts where
  colons : Nat
  opened : Bool
  closed : Bool
  percent : Bool
  /-- Whether the last character was an at sign. -/
  atEnd : Bool

def isHostChar (c : Char) : Bool :=
  isAsciiAlphanumeric c || ['!', '$', '&', '\'', '(', ')', '*', '+', ',', '-', '.', ';', '=', '_',
    '~'].contains c

def Counts.next? (k : Counts) (c : Char) : Option Counts :=
  if c = ':' then
    if 8 ≤ k.colons then none else some { k with colons := k.colons + 1, atEnd := false }
  else if c = '[' then
    if k.percent || k.opened then none else some { k with opened := true, atEnd := false }
  else if c = ']' then
    if !k.opened || k.closed then none
    else some { k with closed := true, colons := 0, percent := false, atEnd := false }
  else if c = '@' then some { k with colons := 0, percent := false, atEnd := true }
  else if c = '%' then some { k with percent := true, atEnd := false }
  else if isHostChar c then some { k with atEnd := false }
  else none

/-- Whether brackets pair up, at most one colon stands before a port, and no escape is left in the
host. -/
def Counts.accepts (k : Counts) : Bool :=
  k.opened == k.closed && k.colons ≤ 1 && !k.atEnd && !k.percent

def endsAuthority (c : Char) : Bool :=
  c == '/' || c == '?' || c == '#'

def isAuthority (cs : List Char) : Bool :=
  match cs.foldlM Counts.next? ⟨0, false, false, false, false⟩ with
  | some k => k.accepts
  | none => false

/-- The path that a target leads to. It is empty for an authority alone. -/
def path? (target : String) : Option String :=
  if maxLength < target.utf8ByteSize then none
  else
    match target.toList with
    | [] => none
    | ['*'] => some "*"
    | '/' :: rest => (originPath? ('/' :: rest)).map String.ofList
    | cs => do
      match ← afterScheme? cs with
      | some address =>
        let authority := address.takeWhile fun c => !endsAuthority c
        let path := address.dropWhile fun c => !endsAuthority c
        if authority.isEmpty || !isAuthority authority then none
        else (originPath? path).map String.ofList
      | none => if isAuthority cs then some "" else none

end Target

end MemberAuth.Http
