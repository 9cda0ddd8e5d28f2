import MemberAuth.Proofs.Store.Entries
import Mathlib.Logic.Function.Basic

/-!
# The files of the store by what they are for

A document, a reservation and a temporary file each have a path of their own, so a disk with nothing
else on it is a table from these to texts. Each file step is a plain operation on the table.
-/
namespace MemberAuth.Store

inductive Site
  | document (loginId : String)
  | reservation (key : String)
  | temporary (n : Nat)
  deriving DecidableEq

def Site.path : Site → Path
  | document loginId => documentPath loginId
  | reservation key => emailFolder ++ [key]
  | temporary n => temporaryPath n

/-- The number that a run of hexadecimal digits stands for. -/
def hexNumber (ds : List Char) : Nat :=
  ds.foldl (fun n d => 16 * n + (Text.hexValue? d).getD 0) 0

theorem hexNumber_append_singleton (ds : List Char) (d : Char) :
    hexNumber (ds ++ [d]) = 16 * hexNumber ds + (Text.hexValue? d).getD 0 := by
  rw [hexNumber, List.foldl_append]
  rfl

theorem hexNumber_toDigits (n : Nat) : hexNumber (Nat.toDigits 16 n) = n := by
  have digit : ∀ m < 16, (Text.hexValue? (Nat.digitChar m)).getD 0 = m := by decide
  induction n using Nat.strongRecOn with
  | ind n ih =>
    rw [Nat.toDigits_eq_if (by decide)]
    split
    · rename_i small
      have := digit n small
      simpa [hexNumber] using this
    · rw [hexNumber_append_singleton, ih (n / 16) (by omega), digit (n % 16) (by omega)]
      omega

theorem hexNumber_leftpad (width : Nat) (ds : List Char) :
    hexNumber (ds.leftpad width '0') = hexNumber ds := by
  have zeros : ∀ k, (List.replicate k '0').foldl
      (fun n d => 16 * n + (Text.hexValue? d).getD 0) 0 = 0 := by
    intro k
    induction k with
    | zero => rfl
    | succ k ih =>
      rw [List.replicate_succ, List.foldl_cons]
      exact ih
  rw [hexNumber, List.leftpad, List.foldl_append, zeros]
  rfl

theorem temporaryPath_injective {m n : Nat} (h : temporaryPath m = temporaryPath n) : m = n := by
  have names := congrArg String.toList (name_inj h)
  simp only [String.toList_append, String.toList_ofList] at names
  have digits := List.append_cancel_left (List.append_cancel_right names)
  have numbers := congrArg hexNumber digits
  rwa [hexNumber_leftpad, hexNumber_leftpad, hexNumber_toDigits, hexNumber_toDigits] at numbers

theorem Site.path_injective : Function.Injective Site.path := by
  intro x y h
  cases x with
  | document loginId =>
    cases y with
    | document other => rw [documentPath_injective h]
    | reservation key => simp [Site.path, documentPath, emailFolder, membersFolder] at h
    | temporary n => exact absurd h.symm (temporaryPath_ne_documentPath n loginId)
  | reservation key =>
    cases y with
    | document other => simp [Site.path, documentPath, emailFolder, membersFolder] at h
    | reservation other => rw [name_inj h]
    | temporary n => simp [Site.path, temporaryPath, emailFolder, membersFolder] at h
  | temporary n =>
    cases y with
    | document other => exact absurd h (temporaryPath_ne_documentPath n other)
    | reservation key => simp [Site.path, temporaryPath, emailFolder, membersFolder] at h
    | temporary m => rw [temporaryPath_injective h]

/-- The text at each site, if there is a file. -/
abbrev Contents := Site → Option String

/-- The two folders are there, with the files of the table and nothing else. -/
structure Holds (d : Disk) (v : Contents) : Prop where
  members : d.entry? membersFolder = some .folder
  emails : d.entry? emailFolder = some .folder
  sites : ∀ x : Site, d.entry? x.path = (v x).map Entry.file
  others : ∀ q, q ≠ [] → q ≠ membersFolder → q ≠ emailFolder → (∀ x : Site, q ≠ x.path) →
    d.entry? q = none

theorem Site.path_ne_nil (x : Site) : x.path ≠ [] := by
  cases x <;> simp [path, documentPath, temporaryPath, membersFolder, emailFolder]

theorem Site.path_ne_membersFolder (x : Site) : x.path ≠ membersFolder := by
  cases x <;> simp [path, documentPath, temporaryPath, membersFolder, emailFolder]

/-- The name of the folder ends in another letter than documents and temporary files do. -/
theorem Site.path_ne_emailFolder (x : Site) : x.path ≠ emailFolder := by
  intro h
  have hn := congrArg (fun p : Path => (p.getLastD "").toList.getLast?) h
  have hl : "by-email".toList.getLast? = some 'l' := by decide
  cases x with
  | document loginId =>
    have hj : ".json".toList.getLast? = some 'n' := by decide
    simp [path, documentPath, membersFolder, emailFolder, String.toList_append,
      List.getLast?_append, hl, hj, -String.reduceToList] at hn
  | reservation key => simp [path, emailFolder] at h
  | temporary n =>
    have ht : ".tmp".toList.getLast? = some 'p' := by decide
    simp [path, temporaryPath, membersFolder, emailFolder, String.toList_append,
      List.getLast?_append, hl, ht, -String.reduceToList] at hn

namespace Holds

variable {d : Disk} {v : Contents}

theorem folder (h : Holds d v) (x : Site) : d.checkParent x.path = .ok () := by
  rw [Disk.checkParent_eq_ok]
  cases x with
  | document loginId => exact h.members
  | reservation key => exact h.emails
  | temporary n => exact h.members

theorem not_folder (h : Holds d v) (x : Site) : d.entry? x.path ≠ some .folder := by
  rw [h.sites]
  cases v x with
  | none => simp
  | some text => simp

/-- Whatever changes only at one site keeps the rest of the table. -/
theorem change (h : Holds d v) {d' : Disk} {x : Site} {text : Option String}
    (here : Disk.entry? d' x.path = text.map Entry.file)
    (elsewhere : ∀ q, q ≠ x.path → Disk.entry? d' q = d.entry? q) :
    Holds d' (Function.update v x text) := by
  constructor
  · rw [elsewhere _ x.path_ne_membersFolder.symm, h.members]
  · rw [elsewhere _ x.path_ne_emailFolder.symm, h.emails]
  · intro y
    by_cases hy : y = x
    · rw [hy, here, Function.update_self]
    · rw [elsewhere _ fun he => hy (Site.path_injective he), h.sites, Function.update_of_ne hy]
  · intro q hq hm he hs
    rw [elsewhere q (hs x), h.others q hq hm he hs]

theorem set (h : Holds d v) (x : Site) (text : String) :
    Holds (d.set x.path (.file text)) (Function.update v x (some text)) := by
  refine h.change ?_ fun q hq => ?_
  · rw [Disk.entry?_set _ x.path_ne_nil, if_pos rfl, Option.map_some]
  · rw [Disk.entry?_set _ x.path_ne_nil, if_neg hq.symm]

theorem erase (h : Holds d v) (x : Site) :
    Holds (d.erase x.path) (Function.update v x none) := by
  refine h.change ?_ fun q hq => ?_
  · rw [Disk.entry?_erase _ x.path_ne_nil, if_pos rfl, Option.map_none]
  · rw [Disk.entry?_erase _ x.path_ne_nil, if_neg hq.symm]

theorem read_eq_ok (h : Holds d v) {x : Site} {text : String} :
    d.read x.path = .ok text ↔ v x = some text := by
  rw [Disk.read_eq_ok, h.sites]
  cases v x with
  | none => simp
  | some other => simp

theorem read (h : Holds d v) {x : Site} {text : String} (hx : v x = some text) :
    d.read x.path = .ok text :=
  h.read_eq_ok.mpr hx

/-- On the way to a site there are only folders. -/
theorem absence (h : Holds d v) (x : Site) : d.absence x.path = .notFound := by
  have folders : ∀ q ∈ Disk.above x.path, d.entry? q = some .folder := by
    intro q hq
    cases x with
    | document loginId =>
      rw [List.mem_singleton.mp hq]
      exact h.members
    | temporary n =>
      rw [List.mem_singleton.mp hq]
      exact h.members
    | reservation key =>
      rcases List.mem_cons.mp hq with rfl | hq
      · exact h.members
      · rw [List.mem_singleton.mp hq]
        exact h.emails
  rw [Disk.absence, if_neg]
  intro found
  obtain ⟨q, hq, file⟩ := List.any_eq_true.mp found
  rw [folders q hq] at file
  simp at file

theorem read_none (h : Holds d v) {x : Site} (hx : v x = none) :
    d.read x.path = .error .notFound := by
  have entry : d.entry? x.path = none := by rw [h.sites, hx, Option.map_none]
  rw [Disk.read, entry, ← h.absence x]

theorem write (h : Holds d v) (x : Site) (text : String) :
    ∃ d', d.write x.path text = .ok d' ∧ Holds d' (Function.update v x (some text)) := by
  refine ⟨_, ?_, h.set x text⟩
  rw [Disk.write, h.folder x]
  exact if_neg (h.not_folder x)

theorem link (h : Holds d v) {x y : Site} {text : String} (hx : v x = some text)
    (hy : v y = none) :
    ∃ d', d.link x.path y.path = .ok d' ∧ Holds d' (Function.update v y (some text)) := by
  have entry : d.entry? y.path = none := by rw [h.sites, hy, Option.map_none]
  refine ⟨_, ?_, h.set y text⟩
  simp only [Disk.link, h.read hx, h.folder y, entry]
  rfl

theorem link_taken (h : Holds d v) {x y : Site} {text other : String} (hx : v x = some text)
    (hy : v y = some other) : d.link x.path y.path = .error .alreadyExists := by
  have entry : d.entry? y.path = some (.file other) := by rw [h.sites, hy, Option.map_some]
  simp only [Disk.link, h.read hx, h.folder y, entry]
  rfl

theorem rename (h : Holds d v) {x : Site} {text : String} (hx : v x = some text) (y : Site) :
    ∃ d', d.rename x.path y.path = .ok d' ∧
      Holds d' (Function.update (Function.update v x none) y (some text)) := by
  refine ⟨_, ?_, (h.erase x).set y text⟩
  simp only [Disk.rename, h.read hx, h.folder y]
  exact if_neg (h.not_folder y)

theorem remove (h : Holds d v) {x : Site} {text : String} (hx : v x = some text) :
    ∃ d', d.remove x.path = .ok d' ∧ Holds d' (Function.update v x none) := by
  have entry : d.entry? x.path = some (.file text) := by rw [h.sites, hx, Option.map_some]
  refine ⟨_, ?_, h.erase x⟩
  rw [Disk.remove, entry]

end Holds

end MemberAuth.Store
