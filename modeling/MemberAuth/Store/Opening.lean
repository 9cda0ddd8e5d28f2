import MemberAuth.Store.Members

/-!
Opening a store on a disk: the folders are made, every member document is read, and ids go on after
the highest one found.
-/
namespace MemberAuth.Store

inductive OpenError
  | io
  | json
  /-- The highest id is the last one there is. -/
  | idsExhausted
  deriving DecidableEq, Repr

/-- Whether a file name has the ending of a member document. -/
def isDocumentName (name : String) : Bool :=
  5 < name.toList.length && ['.', 'j', 's', 'o', 'n'].isSuffixOf name.toList

/-- The id in a member document. -/
def documentId : Entry → Except OpenError Int64
  | .folder => .error .io
  | .file text =>
    match Member.parse text with
    | .ok m => .ok m.id
    | .error _ => .error .json

/-- The highest of the ids in the documents, and of zero. -/
def highestId (entries : List (String × Entry)) : Except OpenError Int64 :=
  (entries.filter fun (name, _) => isDocumentName name).foldlM
    (fun highest (_, e) => do pure (max highest (← documentId e))) 0

/-- The first id to give out. -/
def firstId (entries : List (String × Entry)) : Except OpenError Int64 := do
  let highest ← highestId entries
  if highest = Int64.maxValue then .error .idsExhausted else .ok (highest + 1)

/-- The disk with the folders made, and the store on it. -/
def openOn (disk : Disk) (freshCount : Nat) : Disk × Except OpenError Shelf :=
  match disk.makeFolders emailFolder with
  | (disk, .error _) => (disk, .error .io)
  | (disk, .ok ()) =>
    (disk, (firstId (disk.children membersFolder)).map fun nextId => ⟨disk, nextId, freshCount⟩)

end MemberAuth.Store
