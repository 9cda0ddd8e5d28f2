import MemberAuth.Settings.Value

/-!
Tables while a TOML text is read. A table remembers how it came about, because a key may be given
once only: a table made on the way to another may still be filled in, one that was written out may
not be added to by dotted keys.
-/
namespace MemberAuth.Toml

open Settings

mutual

inductive Node
  /-- A finished value, among them inline tables and arrays. -/
  | value (v : Value)
  | table (t : Table)
  /-- The elements of an array of tables. -/
  | tables (ts : List Table)

/-- `implicit` tables were made on the way to others, `dotted` ones by a key with dots. -/
inductive Table
  | mk (implicit dotted : Bool) (entries : List (String × Node))

end

namespace Table

def isImplicit : Table → Bool
  | mk implicit _ _ => implicit

def isDotted : Table → Bool
  | mk _ dotted _ => dotted

def entries : Table → List (String × Node)
  | mk _ _ entries => entries

/-- A table of its own, with no entries yet. -/
def blank : Table :=
  mk false false []

/-- The same entries in a table that is written out. -/
def writtenOut (t : Table) : Table :=
  mk false false t.entries

def lookup (t : Table) (key : String) : Option Node :=
  t.entries.lookup key

def erase (t : Table) (key : String) : Table :=
  mk t.isImplicit t.isDotted (t.entries.filter fun (k, _) => k != key)

def set (t : Table) (key : String) (n : Node) : Table :=
  mk t.isImplicit t.isDotted ((t.erase key).entries ++ [(key, n)])

/-- Goes down a path, makes the tables that are missing on it, and changes the table at its end. An
array of tables is entered at its last element. -/
def descend (dotted : Bool) (f : Table → Option Table) : List String → Table → Option Table
  | [], t => f t
  | key :: path, t =>
    match t.lookup key with
    | none => do
      let child ← descend dotted f path (mk true dotted [])
      pure (t.set key (.table child))
    | some (.value _) => none
    | some (.tables ts) => do
      let child ← descend dotted f path (← ts.getLast?)
      pure (t.set key (.tables (ts.dropLast ++ [child])))
    | some (.table child) =>
      if dotted && !child.isImplicit then none
      else do
        let child ← descend dotted f path child
        pure (t.set key (.table child))

/-- Adds a value under a key with the dotted parts before it. -/
def addValue (t : Table) (path : List String) (key : String) (v : Value) : Option Table :=
  t.descend true (fun t =>
    if t.isDotted == path.isEmpty || (t.lookup key).isSome then none
    else some (t.set key (.value v))) path

/-- Takes out the table that a header opens: a new one, or one made on the way to another. -/
def detach (t : Table) (path : List String) (key : String) : Option (Table × Table) := do
  let opened ← findOpened path t
  let rest ← t.descend false (fun t => some (t.erase key)) path
  pure (opened, rest)
where
  findOpened : List String → Table → Option Table
    | [], t =>
      match t.lookup key with
      | none => some blank
      | some (.table child) =>
        if child.isImplicit && !child.isDotted then some child.writtenOut else none
      | some _ => none
    | part :: path, t =>
      match t.lookup part with
      | none => some blank
      | some (.table child) => findOpened path child
      | some (.tables ts) =>
        match ts.getLast? with
        | some child => findOpened path child
        | none => none
      | some (.value _) => none

/-- Puts a finished table back under its key. -/
def attach (t : Table) (path : List String) (key : String) (child : Table) : Option Table :=
  t.descend false (fun t =>
    match t.lookup key with
    | none => some (t.set key (.table child))
    | some _ => none) path

/-- Adds a finished table to the array of tables under its key. -/
def append (t : Table) (path : List String) (key : String) (child : Table) : Option Table :=
  t.descend false (fun t =>
    match t.lookup key with
    | none => some (t.set key (.tables [child]))
    | some (.tables ts) => some (t.set key (.tables (ts ++ [child])))
    | some _ => none) path

end Table

mutual

def Node.toValue : Node → Value
  | .value v => v
  | .table t => .table (Table.toEntries t)
  | .tables ts => .list (tableValues ts)

def Table.toEntries : Table → Entries
  | .mk _ _ entries => entryValues entries

def entryValues : List (String × Node) → Entries
  | [] => []
  | (key, n) :: rest => (key, Node.toValue n) :: entryValues rest

def tableValues : List Table → List Value
  | [] => []
  | t :: rest => .table (Table.toEntries t) :: tableValues rest

end

end MemberAuth.Toml
