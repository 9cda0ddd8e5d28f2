import MemberAuth.Toml.Number
import MemberAuth.Toml.Tree

/-!
TOML texts: values with their arrays and inline tables, lines of keys and values, and the headers
that open tables.
-/
namespace MemberAuth.Toml

open Settings

abbrev ValueReader := List Char → Option (Value × List Char)

/-- The elements of an array after its bracket or a comma. Each turn takes a character, so the
number of characters is enough fuel. -/
def items? (item : ValueReader) : Nat → List Char → Option (List Value × List Char)
  | 0, _ => none
  | fuel + 1, cs =>
    match skipTrivia false cs with
    | ']' :: rest => some ([], rest)
    | cs => do
      let (v, rest) ← item cs
      match skipTrivia false rest with
      | ',' :: rest =>
        let (vs, rest) ← items? item fuel rest
        pure (v :: vs, rest)
      | ']' :: rest => pure ([v], rest)
      | _ => none

/-- A key, an equals sign and a value. -/
def pair? (item : ValueReader) (cs : List Char) :
    Option ((List String × String × Value) × List Char) := do
  let (path, key, rest) ← key? cs
  match rest with
  | '=' :: rest =>
    let (v, rest) ← item (skipWhite rest)
    pure ((path, key, v), rest)
  | _ => none

/-- The pairs of an inline table after its brace or a comma. -/
def pairs? (item : ValueReader) : Nat → Table → List Char → Option (Table × List Char)
  | 0, _, _ => none
  | fuel + 1, t, cs => do
    let ((path, key, v), rest) ← pair? item cs
    let t ← t.addValue path key v
    match skipWhite rest with
    | ',' :: rest => pairs? item fuel t rest
    | '\x7d' :: rest => pure (t, rest)
    | _ => none

/-- A string or another value without parts. -/
def plainValue? (cs : List Char) : Option (Value × List Char) :=
  match string? cs with
  | some (s, rest) => some (.text (String.ofList s), rest)
  | none => scalarValue? cs

/-- A value with up to `depth` brackets and braces around any part of it. -/
def value? : Nat → ValueReader
  | 0, cs => plainValue? cs
  | depth + 1, cs =>
    match cs with
    | '[' :: rest => (items? (value? depth) (rest.length + 1) rest).map fun (vs, rest) =>
      (.list vs, rest)
    | '\x7b' :: rest =>
      match skipWhite rest with
      | '\x7d' :: rest => some (.table [], rest)
      | _ => (pairs? (value? depth) (rest.length + 1) .blank rest).map fun (t, rest) =>
        (.table t.toEntries, rest)
    | _ => plainValue? cs

/-- The table that lines are added to, and where it belongs. -/
structure Reading where
  root : Table
  current : Table
  /-- The header that opened the current table; there is none for the first lines. -/
  header : Option (List String × String)
  /-- Whether the current table is an element of an array. -/
  isElement : Bool

namespace Reading

def start : Reading :=
  ⟨.blank, .blank, none, false⟩

/-- The whole tree, with the current table in its place. -/
def close? (r : Reading) : Option Table :=
  match r.header with
  | none => some r.current
  | some (path, key) =>
    if r.isElement then r.root.append path key r.current else r.root.attach path key r.current

/-- Opens the table of a header. -/
def open? (r : Reading) (isElement : Bool) (path : List String) (key : String) :
    Option Reading := do
  let root ← r.close?
  if isElement then pure ⟨root, .blank, some (path, key), true⟩
  else
    let (opened, root) ← root.detach path key
    pure ⟨root, opened, some (path, key), false⟩

def add? (r : Reading) (path : List String) (key : String) (v : Value) : Option Reading := do
  pure { r with current := ← r.current.addValue path key v }

end Reading

/-- One line that is not blank, and the line end. -/
def line? (r : Reading) (cs : List Char) : Option (Reading × List Char) :=
  match cs with
  | '[' :: '[' :: rest => do
    let (path, key, rest) ← key? rest
    match rest with
    | ']' :: ']' :: rest => pure (← r.open? true path key, ← lineEnd? rest)
    | _ => none
  | '[' :: rest => do
    let (path, key, rest) ← key? rest
    match rest with
    | ']' :: rest => pure (← r.open? false path key, ← lineEnd? rest)
    | _ => none
  | _ => do
    let ((path, key, v), rest) ← pair? (value? (depthLimit - 1)) cs
    pure (← r.add? path key v, ← lineEnd? rest)

/-- All lines. Each turn takes a character, so the number of characters is enough fuel. -/
def lines? : Nat → Reading → List Char → Option Reading
  | 0, _, _ => none
  | fuel + 1, r, cs =>
    match skipWhite cs with
    | [] => some r
    | '#' :: rest => do lines? fuel r (← lineEnd? ('#' :: rest))
    | c :: rest =>
      match newline? (c :: rest) with
      | some rest => lines? fuel r rest
      | none => do
        let (r, rest) ← line? r (c :: rest)
        lines? fuel r rest

/-- The entries of a text, if it is TOML. A byte order mark at the front is passed over. -/
def parse? (text : String) : Option Entries := do
  let cs := match text.toList with
    | '\ufeff' :: rest => rest
    | cs => cs
  let r ← lines? (cs.length + 1) .start cs
  pure (← r.close?).toEntries

end MemberAuth.Toml
