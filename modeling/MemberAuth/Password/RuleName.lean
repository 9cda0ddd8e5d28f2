import MemberAuth.Json.Record
import MemberAuth.Json.Written
import MemberAuth.Password.Policy

/-!
The names of the character rules, and their JSON form: the name as a string, or as the only key of
an object with the value `null`.
-/
namespace MemberAuth.CharacterRule

open Json

def name : CharacterRule → String
  | requireAllClasses => "require_all_classes"
  | allowedSymbolsOnly => "allowed_symbols_only"

def ofName? (text : String) : Option CharacterRule :=
  [requireAllClasses, allowedSymbolsOnly].find? fun rule => rule.name == text

theorem ofName?_name (rule : CharacterRule) : ofName? rule.name = some rule := by
  cases rule <;> decide

def toJson (rule : CharacterRule) : String :=
  String.ofList (writeString rule.name.toList)

/-- A string that names a rule. -/
def readName (cs : List Char) : Except ReadError (CharacterRule × List Char) := do
  let (text, rest) ← readString cs
  match ofName? (String.ofList text) with
  | some rule => .ok (rule, rest)
  | none => .error .mismatch

/-- The name as a key after an opening brace. -/
def readKey (cs : List Char) : Except ReadError (CharacterRule × List Char) :=
  match skipSpace cs with
  | [] => .error .truncated
  | '"' :: rest => readName ('"' :: rest)
  | _ => .error .malformed

def readNull (cs : List Char) : Except ReadError (List Char) :=
  match skipSpace cs with
  | 'n' :: rest => readWord ['u', 'l', 'l'] rest
  | other => .error (otherKind other)

def read (cs : List Char) : Except ReadError (CharacterRule × List Char) :=
  match skipSpace cs with
  | [] => .error .truncated
  | '"' :: rest => readName ('"' :: rest)
  | '\x7b' :: rest => do
    let (rule, rest) ← readKey rest
    let rest ← readNull (← readColon rest)
    match skipSpace rest with
    | [] => .error .truncated
    | '\x7d' :: rest => .ok (rule, rest)
    | _ => .error .malformed
  | _ => .error .malformed

def parse (text : String) : Except ReadError CharacterRule :=
  finish (read text.toList)

end MemberAuth.CharacterRule
