import Std.Data.ExtTreeMap

/-!
The directory in which members are kept: a tree of folders and text files, with the file operations
that the store and its surroundings use. A path is the list of names that lead to it.
-/
namespace MemberAuth

abbrev Path := List String

inductive Entry
  | file (text : String)
  | folder
  deriving DecidableEq, Repr

/-- The kinds of failure that are told apart. -/
inductive FileError
  | notFound
  | alreadyExists
  | other
  deriving DecidableEq, Repr

/-- What lies at each path. The folder at the empty path is always there. -/
structure Disk where
  entries : Std.ExtTreeMap Path Entry

namespace Disk

def empty : Disk :=
  ⟨∅⟩

def entry? (d : Disk) (p : Path) : Option Entry :=
  if p = [] then some .folder else d.entries[p]?

def set (d : Disk) (p : Path) (e : Entry) : Disk :=
  ⟨d.entries.insert p e⟩

def erase (d : Disk) (p : Path) : Disk :=
  ⟨d.entries.erase p⟩

/-- The paths above `p`, without the empty one. -/
def above (p : Path) : List Path :=
  (List.range' 1 (p.length - 1)).map p.take

/-- Why nothing is at a path: a name is missing on the way, or a file stands in it. -/
def absence (d : Disk) (p : Path) : FileError :=
  if (above p).any fun q => d.entry? q |>.any (· ≠ .folder) then .other else .notFound

def read (d : Disk) (p : Path) : Except FileError String :=
  match d.entry? p with
  | some (.file text) => .ok text
  | some .folder => .error .other
  | none => .error (d.absence p)

/-- Whether the folder that `p` is to lie in is there. -/
def checkParent (d : Disk) (p : Path) : Except FileError Unit :=
  match d.entry? p.dropLast with
  | some .folder => .ok ()
  | some (.file _) => .error .other
  | none => .error (d.absence p.dropLast)

/-- Makes or replaces a file. -/
def write (d : Disk) (p : Path) (text : String) : Except FileError Disk := do
  d.checkParent p
  if d.entry? p = some .folder then .error .other else .ok (d.set p (.file text))

/-- Makes the file at `source` appear at `target` too, where nothing may be yet. -/
def link (d : Disk) (source target : Path) : Except FileError Disk := do
  let text ← d.read source
  d.checkParent target
  if d.entry? target |>.isSome then .error .alreadyExists else .ok (d.set target (.file text))

/-- Moves a file, over another if one is there. -/
def rename (d : Disk) (source target : Path) : Except FileError Disk := do
  let text ← d.read source
  d.checkParent target
  if d.entry? target = some .folder then .error .other
  else .ok ((d.erase source).set target (.file text))

/-- Removes a file. -/
def remove (d : Disk) (p : Path) : Except FileError Disk :=
  match d.entry? p with
  | some (.file _) => .ok (d.erase p)
  | some .folder => .error .other
  | none => .error (d.absence p)

/-- Makes the folders of a list that are not there, as far as no file stands in the way. -/
def makeEach (d : Disk) : List Path → Disk × Except FileError Unit
  | [] => (d, .ok ())
  | p :: rest =>
    match d.entry? p with
    | some .folder => d.makeEach rest
    | some (.file _) => (d, .error .other)
    | none => (d.set p .folder).makeEach rest

/-- Makes a folder and those it lies in. -/
def makeFolders (d : Disk) (p : Path) : Disk × Except FileError Unit :=
  d.makeEach (above p ++ [p])

/-- The names in a folder with what they stand for, in order. -/
def children (d : Disk) (p : Path) : List (String × Entry) :=
  d.entries.toList.filterMap fun (q, e) =>
    if q.dropLast = p then q.getLast?.map fun name => (name, e) else none

/-- Everything but what lies at a path or below it. -/
def without (d : Disk) (p : Path) : Disk :=
  ⟨d.entries.filter fun q _ => !p.isPrefixOf q⟩

/-- Puts a file in place together with the folders it lies in, where that is possible. -/
def place (d : Disk) (p : Path) (text : String) : Disk :=
  let d := (d.makeFolders p.dropLast).1
  match d.write p text with
  | .ok d => d
  | .error _ => d

/-- Every path as text, folders with a slash at the end, in order. -/
def listing (d : Disk) : List String :=
  let shown := d.entries.toList.map fun (p, e) =>
    let text := "/".intercalate p
    match e with
    | .file _ => text
    | .folder => text ++ "/"
  shown.mergeSort fun a b => !(b < a)

end Disk

end MemberAuth
