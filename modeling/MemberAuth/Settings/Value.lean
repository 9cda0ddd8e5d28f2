/-!
Values as settings sources give them, and how a later source is laid over an earlier one.
-/
namespace MemberAuth.Settings

inductive Value
  | text (s : String)
  | char (c : Char)
  | flag (b : Bool)
  | int (n : Int)
  /-- A number with a fraction or an exponent. No setting is one, so its size is not kept. -/
  | real
  | list (items : List Value)
  | table (entries : List (String × Value))
  deriving Inhabited

abbrev Entries := List (String × Value)

/-- Puts a value under a key, in place of what is there. -/
def setEntry (key : String) (v : Value) : Entries → Entries
  | [] => [(key, v)]
  | (k, w) :: rest => if k = key then (k, v) :: rest else (k, w) :: setEntry key v rest

mutual

/-- A table is laid over a table entry by entry; anything else takes the place of what it covers. -/
def Value.over (low : Value) : Value → Value
  | .table high =>
    match low with
    | .table entries => .table (overEntries entries high)
    | _ => .table high
  | .text s => .text s
  | .char c => .char c
  | .flag b => .flag b
  | .int n => .int n
  | .real => .real
  | .list items => .list items

/-- Lays entries one by one over a table. -/
def overEntries (low : Entries) : List (String × Value) → Entries
  | [] => low
  | (key, v) :: rest =>
    let merged := match low.lookup key with
      | some old => Value.over old v
      | none => v
    overEntries (setEntry key merged low) rest

end

/-- The entries in the order of their keys. -/
def sortEntries (entries : Entries) : Entries :=
  entries.mergeSort fun a b => !(b.1 < a.1)

end MemberAuth.Settings
