import MemberAuth.Settings.Value

/-!
Tables that stand for another value. Such a table holds the value under a key of its own, and what
else is in the table does not count. A second key is reserved: a table that has it stands for
nothing.
-/
namespace MemberAuth.Settings

/-- The key of the value that a table stands for. -/
def standInKey : String := "___figment_value_value"

def reservedKey : String := "___figment_value_id"

/-- What a table with these entries stands for: by default itself. -/
def tableOrContent (entries : Entries) : Value :=
  (entries.lookup standInKey).getD (.table entries)

mutual

/-- The value with every table in it replaced by what the table stands for, from the inside out.
There is none if any table has the reserved key, also one that does not count. -/
def Value.resolve? : Value → Option Value
  | .table entries => do
    let entries ← resolveEntries? entries
    if (entries.lookup reservedKey).isSome then none else some (tableOrContent entries)
  | .list items => do pure (.list (← resolveItems? items))
  | .text s => some (.text s)
  | .char c => some (.char c)
  | .flag b => some (.flag b)
  | .int n => some (.int n)
  | .real => some .real

/-- The same keys with their values resolved. -/
def resolveEntries? : List (String × Value) → Option Entries
  | [] => some []
  | (key, v) :: rest => do pure ((key, ← v.resolve?) :: (← resolveEntries? rest))

def resolveItems? : List Value → Option (List Value)
  | [] => some []
  | v :: rest => do pure ((← v.resolve?) :: (← resolveItems? rest))

end

end MemberAuth.Settings
