import MemberAuth.Password.RuleName
import MemberAuth.Settings.Basic
import MemberAuth.Settings.Environment
import MemberAuth.Settings.StandIn
import MemberAuth.Toml.Document

/-!
Settings from a TOML text and from environment variables. What a variable says is laid over what the
text says, and what neither says stays as it is by default.
-/
namespace MemberAuth.Settings

/-- What can be wrong with a value. -/
inductive Fault
  | wrongType
  /-- A number beyond what the setting can hold. -/
  | outOfRange
  | unknownName
  /-- A text that cannot be read. -/
  | unreadable
  deriving DecidableEq, Repr

/-- A fault, and the keys that lead to the value that has it. -/
structure Problem where
  fault : Fault
  path : List String
  deriving DecidableEq, Repr

def Problem.under (key : String) (p : Problem) : Problem :=
  { p with path := key :: p.path }

/-- The path with dots between its keys. -/
def Problem.dottedPath (p : Problem) : String :=
  ".".intercalate p.path

abbrev Reader (α : Type) := Value → Except Problem α

/-- A fault of the value itself. -/
def fail {α : Type} (fault : Fault) : Except Problem α :=
  .error ⟨fault, []⟩

def readText : Reader String
  | .text s => .ok s
  | .char c => .ok (String.singleton c)
  | _ => fail .wrongType

/-- A number below `limit`. -/
def readNumber (limit : Nat) : Reader Nat
  | .int n => if 0 ≤ n ∧ n < limit then .ok n.toNat else fail .outOfRange
  | _ => fail .wrongType

def readAddress : Reader Net.SocketAddress := fun v => do
  match Net.SocketAddress.parse? (← readText v) with
  | some address => .ok address
  | none => fail .unreadable

/-- The name of a rule. A table would have to hold it as its first key with nothing under it, and
every key holds something: the fault of a table is at that key. -/
def readRule : Reader CharacterRule
  | .text name =>
    match CharacterRule.ofName? name with
    | some rule => .ok rule
    | none => fail .unknownName
  | .table entries =>
    match sortEntries entries with
    | [] => fail .wrongType
    | (name, _) :: _ =>
      let fault := if (CharacterRule.ofName? name).isSome then .wrongType else .unknownName
      .error ⟨fault, [name]⟩
  | _ => fail .wrongType

/-- A setting in a group: its key, and how its value changes the group. -/
structure Part (α : Type) where
  key : String
  update : α → Reader α

def Part.of {α β : Type} (key : String) (read : Reader β) (set : α → β → α) : Part α :=
  ⟨key, fun group v => do pure (set group (← read v))⟩

/-- Reads a value that stands under `key`. -/
def Part.apply {α : Type} (part : Part α) (key : String) (group : α) (v : Value) :
    Except Problem α :=
  (part.update group v).mapError (Problem.under key)

/-- Reads a group from a table, in the order of the keys, or from a list in the order of its parts.
Keys that name no part and items beyond the last part are passed over. -/
def readGroup {α : Type} (parts : List (Part α)) (standard : α) : Reader α
  | .table entries =>
    (sortEntries entries).foldlM (fun group (key, v) =>
      match parts.find? (·.key == key) with
      | some part => part.apply key group v
      | none => .ok group) standard
  | .list items =>
    (items.zip parts).zipIdx.foldlM (fun group ((v, part), i) =>
      part.apply (toString i) group v) standard
  | _ => fail .wrongType

def readCache : Reader Cache :=
  readGroup
    [ .of "ttl_secs" (readNumber UInt64.size) fun c n => { c with ttl := n },
      .of "max_entries" (readNumber UInt64.size) fun c n => { c with maxEntries := n },
      .of "purge_interval_secs" (readNumber UInt64.size) fun c n =>
        { c with purgeInterval := n } ] {}

def readHashing : Reader Hashing :=
  readGroup
    [ .of "log_n" (readNumber UInt8.size) fun h n => { h with logN := n },
      .of "r" (readNumber UInt32.size) fun h n => { h with r := n },
      .of "p" (readNumber UInt32.size) fun h n => { h with p := n } ] {}

def readPasswordPolicy : Reader PasswordPolicy :=
  readGroup [ .of "character_rule" readRule fun p rule => { p with characterRule := rule } ] {}

def ofValue : Reader Settings :=
  readGroup
    [ .of "bind_addr" readAddress fun s a => { s with bindAddress := a },
      .of "data_dir" readText fun s d => { s with dataDirectory := d },
      .of "log_level" readText fun s l => { s with logLevel := l },
      .of "credential_cache" readCache fun s c => { s with cache := c },
      .of "hashing" readHashing fun s h => { s with hashing := h },
      .of "password_policy" readPasswordPolicy fun s p => { s with passwordPolicy := p } ] {}

inductive LoadError
  | problem (p : Problem)
  | refusal (r : Refusal)
  deriving DecidableEq, Repr

/-- The entries of a TOML text. A table below the top may stand for another value. -/
def readEntries? (text : String) : Option Entries := do
  resolveEntries? (← Toml.parse? text)

/-- The settings of a TOML text, if there is one, and of a list of variables. -/
def load (text : Option String) (environment : List (String × String)) :
    Except LoadError Settings := do
  let low ← match text with
    | none => .ok []
    | some text =>
      match readEntries? text with
      | some entries => .ok entries
      | none => .error (.problem ⟨.unreadable, []⟩)
  let settings ← (ofValue ((Value.table low).over (Environment.read environment))).mapError .problem
  settings.validate.mapError .refusal
  pure settings

end MemberAuth.Settings
