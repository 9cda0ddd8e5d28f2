import MemberAuth.Proofs.Store.Frame

/-!
# Two stores that differ in the ends of names

Two stores are alike if one can be made from the other by changing the last characters of names in
member documents. Operations take the same course on both: their scripts make the same calls, up to
a text that is written, and the replies are the same, up to a text that is read.
-/
namespace MemberAuth

namespace Script

variable {Call : Type} {Reply : Call → Type} {α α' β β' σ : Type}
  {Matched : (c c' : Call) → (Reply c → Reply c' → Prop) → Prop}
  {Ends : α → α' → Prop} {Ends' : β → β' → Prop}

/-- Two scripts make matched calls as long as they get replies that match, and end at matching
values. Which calls match also says which replies to them do. -/
inductive Lockstep (Matched : (c c' : Call) → (Reply c → Reply c' → Prop) → Prop)
    (Ends : α → α' → Prop) : Script Call Reply α → Script Call Reply α' → Prop
  | done {a : α} {a' : α'} (ends : Ends a a') : Lockstep Matched Ends (.done a) (.done a')
  | call {c c' : Call} {Replies : Reply c → Reply c' → Prop} {next : Reply c → Script Call Reply α}
    {next' : Reply c' → Script Call Reply α'} (matched : Matched c c' Replies)
    (later : ∀ r r', Replies r r' → Lockstep Matched Ends (next r) (next' r')) :
    Lockstep Matched Ends (.call c next) (.call c' next')

namespace Lockstep

theorem ask {c c' : Call} {Replies : Reply c → Reply c' → Prop} (matched : Matched c c' Replies) :
    Lockstep Matched Replies (Script.ask c) (Script.ask c') :=
  .call matched fun _ _ replies => .done replies

theorem pure {a : α} {a' : α'} (ends : Ends a a') :
    Lockstep Matched Ends (pure a : Script Call Reply α) (pure a' : Script Call Reply α') :=
  .done ends

theorem bind {x : Script Call Reply α} {y : Script Call Reply α'} {f : α → Script Call Reply β}
    {g : α' → Script Call Reply β'} (hx : Lockstep Matched Ends x y)
    (hf : ∀ a a', Ends a a' → Lockstep Matched Ends' (f a) (g a')) :
    Lockstep Matched Ends' (x >>= f) (y >>= g) := by
  induction hx with
  | done ends => exact hf _ _ ends
  | call matched _ ih => exact .call matched ih

/-- After scripts that end at the same value, it is enough to follow what is done with it. -/
theorem bind_same {x y : Script Call Reply α} {f : α → Script Call Reply β}
    {g : α → Script Call Reply β'} (hx : Lockstep Matched Eq x y)
    (hf : ∀ a, Lockstep Matched Ends' (f a) (g a)) :
    Lockstep Matched Ends' (x >>= f) (y >>= g) := by
  refine hx.bind fun a _ same => ?_
  subst same
  exact hf a

/-- Where matched calls keep states related and get matching replies, so do scripts in step. -/
theorem run {perform : (c : Call) → σ → σ × Reply c} {States : σ → σ → Prop}
    (step : ∀ {s s'}, States s s' → ∀ {c c' Replies}, Matched c c' Replies →
      States (perform c s).1 (perform c' s').1 ∧ Replies (perform c s).2 (perform c' s').2)
    {x : Script Call Reply α} {y : Script Call Reply α'} (h : Lockstep Matched Ends x y) {s s' : σ}
    (states : States s s') :
    States (x.run perform s).1 (y.run perform s').1 ∧
      Ends (x.run perform s).2 (y.run perform s').2 := by
  induction h generalizing s s' with
  | done ends => exact ⟨states, ends⟩
  | call matched _ ih =>
    obtain ⟨states', replies⟩ := step states matched
    exact ih _ _ replies states'

end Lockstep

end Script

/-- The same name, up to its last character. -/
inductive SameButLast : String → String → Prop
  | same (name : String) : SameButLast name name
  | last (stem : List Char) (c c' : Char) :
    SameButLast (String.ofList (stem ++ [c])) (String.ofList (stem ++ [c']))

/-- A mask hides all of the difference. -/
theorem SameButLast.maskName {name name' : String} (h : SameButLast name name') :
    maskName name' = maskName name := by
  cases h with
  | same name => rfl
  | last stem c c' =>
    simp only [MemberAuth.maskName, String.toList_ofList, List.dropLast_concat]

/-- The same member, up to the last character of its name. -/
structure Member.Alike (m m' : Member) : Prop where
  rest : m' = { m with name := m'.name }
  name : SameButLast m.name m'.name

namespace Member.Alike

variable {m m' : Member}

theorem refl (m : Member) : m.Alike m :=
  ⟨rfl, .same m.name⟩

theorem passwordHash (h : m.Alike m') : m'.passwordHash = m.passwordHash := by
  rw [h.rest]

theorem birthDate (h : m.Alike m') : m'.birthDate = m.birthDate := by
  rw [h.rest]

theorem identity (h : m.Alike m') : m'.identity = m.identity := by
  rw [h.rest]
  rfl

theorem profile (h : m.Alike m') : m'.profile = m.profile := by
  rw [Member.profile, h.name.maskName, h.rest]
  rfl

theorem rehash (h : m.Alike m') (passwordHash : String) :
    Member.Alike { m with passwordHash } { m' with passwordHash } := by
  refine ⟨?_, h.name⟩
  rw [h.rest]

end Member.Alike

/-- The same failure, or values that are alike. -/
inductive ResultAlike {ε α β : Type} (alike : α → β → Prop) : Except ε α → Except ε β → Prop
  | error (e : ε) : ResultAlike alike (.error e) (.error e)
  | ok {a : α} {b : β} (h : alike a b) : ResultAlike alike (.ok a) (.ok b)

namespace ResultAlike

variable {ε α α' β β' : Type} {alike : α → α' → Prop} {alike' : β → β' → Prop}

theorem refl (x : Except ε α) : ResultAlike Eq x x := by
  cases x with
  | error e => exact .error e
  | ok a => exact .ok rfl

theorem bind {x : Except ε α} {y : Except ε α'} {f : α → Except ε β} {g : α' → Except ε β'}
    (h : ResultAlike alike x y) (later : ∀ a a', alike a a' → ResultAlike alike' (f a) (g a')) :
    ResultAlike alike' (x >>= f) (y >>= g) := by
  cases h with
  | error e => exact .error e
  | ok h => exact later _ _ h

end ResultAlike

/-- The same text, or documents of members that are alike. -/
inductive TextAlike : String → String → Prop
  | same (text : String) : TextAlike text text
  | documents {text text' : String} {m m' : Member} (here : Member.parse text = .ok m)
    (there : Member.parse text' = .ok m') (members : m.Alike m') : TextAlike text text'

theorem Member.Alike.document {m m' : Member} (h : m.Alike m') :
    TextAlike m.document m'.document :=
  .documents m.parse_document m'.parse_document h

/-- Nothing in both places, or folders, or files with texts that are alike. -/
inductive EntryAlike : Option Entry → Option Entry → Prop
  | absent : EntryAlike none none
  | folder : EntryAlike (some .folder) (some .folder)
  | file {text text' : String} (texts : TextAlike text text') :
    EntryAlike (some (.file text)) (some (.file text'))

namespace EntryAlike

variable {e e' : Option Entry}

theorem refl (e : Option Entry) : EntryAlike e e := by
  rcases e with _ | text | _
  · exact .absent
  · exact .file (.same text)
  · exact .folder

theorem folder_iff (h : EntryAlike e e') : e' = some .folder ↔ e = some .folder := by
  cases h <;> simp

theorem isSome_eq (h : EntryAlike e e') : e'.isSome = e.isSome := by
  cases h <;> rfl

theorem blocks_eq (h : EntryAlike e e') : e'.any (· ≠ .folder) = e.any (· ≠ .folder) := by
  cases h <;> simp

end EntryAlike

/-- Alike entries lie at the same paths. -/
def Disk.Alike (d d' : Disk) : Prop :=
  ∀ p, EntryAlike (d.entry? p) (d'.entry? p)

namespace Disk.Alike

variable {d d' : Disk} {p : Path} {text text' : String}

theorem refl (d : Disk) : d.Alike d :=
  fun p => .refl (d.entry? p)

/-- The empty path is a folder on every disk. -/
theorem of_entries (h : ∀ p : Path, p ≠ [] → EntryAlike d.entries[p]? d'.entries[p]?) :
    d.Alike d' := by
  intro p
  by_cases hp : p = []
  · rw [hp]
    exact .folder
  · rw [entry?_of_ne_nil d hp, entry?_of_ne_nil d' hp]
    exact h p hp

theorem entries (h : d.Alike d') (hp : p ≠ []) : EntryAlike d.entries[p]? d'.entries[p]? := by
  rw [← entry?_of_ne_nil d hp, ← entry?_of_ne_nil d' hp]
  exact h p

theorem set (h : d.Alike d') (p : Path) {e e' : Entry} (new : EntryAlike (some e) (some e')) :
    (d.set p e).Alike (d'.set p e') := by
  refine of_entries fun q hq => ?_
  simp only [Disk.set, Std.ExtTreeMap.getElem?_insert]
  split
  · exact new
  · exact h.entries hq

theorem erase (h : d.Alike d') (p : Path) : (d.erase p).Alike (d'.erase p) := by
  refine of_entries fun q hq => ?_
  simp only [Disk.erase, Std.ExtTreeMap.getElem?_erase]
  split
  · exact .absent
  · exact h.entries hq

theorem absence_eq (h : d.Alike d') (p : Path) : d'.absence p = d.absence p := by
  have each q := (h q).blocks_eq
  simp only [absence, each]

theorem checkParent_eq (h : d.Alike d') (p : Path) : d'.checkParent p = d.checkParent p := by
  have entries := h p.dropLast
  rw [checkParent, checkParent, h.absence_eq]
  generalize d.entry? p.dropLast = e, d'.entry? p.dropLast = e' at entries
  cases entries <;> rfl

theorem read (h : d.Alike d') (p : Path) : ResultAlike TextAlike (d.read p) (d'.read p) := by
  have entries := h p
  rw [Disk.read, Disk.read, h.absence_eq]
  generalize d.entry? p = e, d'.entry? p = e' at entries
  cases entries with
  | absent => exact .error _
  | folder => exact .error _
  | file texts => exact .ok texts

theorem write (h : d.Alike d') (p : Path) (texts : TextAlike text text') :
    ResultAlike Disk.Alike (d.write p text) (d'.write p text') := by
  rw [Disk.write, Disk.write, h.checkParent_eq]
  refine (ResultAlike.refl _).bind fun _ _ _ => ?_
  simp only [(h p).folder_iff]
  split
  · exact .error _
  · exact .ok (h.set p (.file texts))

theorem link (h : d.Alike d') (source target : Path) :
    ResultAlike Disk.Alike (d.link source target) (d'.link source target) := by
  rw [Disk.link, Disk.link, h.checkParent_eq]
  refine (h.read source).bind fun text text' texts => ?_
  refine (ResultAlike.refl _).bind fun _ _ _ => ?_
  rw [(h target).isSome_eq]
  split
  · exact .error _
  · exact .ok (h.set target (.file texts))

theorem rename (h : d.Alike d') (source target : Path) :
    ResultAlike Disk.Alike (d.rename source target) (d'.rename source target) := by
  rw [Disk.rename, Disk.rename, h.checkParent_eq]
  refine (h.read source).bind fun text text' texts => ?_
  refine (ResultAlike.refl _).bind fun _ _ _ => ?_
  simp only [(h target).folder_iff]
  split
  · exact .error _
  · exact .ok ((h.erase source).set target (.file texts))

theorem remove (h : d.Alike d') (p : Path) :
    ResultAlike Disk.Alike (d.remove p) (d'.remove p) := by
  have entries := h p
  rw [Disk.remove, Disk.remove, h.absence_eq]
  generalize d.entry? p = e, d'.entry? p = e' at entries
  cases entries with
  | absent => exact .error _
  | folder => exact .error _
  | file texts => exact .ok (h.erase p)

end Disk.Alike

namespace Store

/-- File calls that alike stores answer in the same way: the same call, or writing texts that are
alike. What is read may differ. -/
inductive FileCall.Matched : (c c' : FileCall) → (c.Reply → c'.Reply → Prop) → Prop
  | read (p : Path) : Matched (.read p) (.read p) (ResultAlike TextAlike)
  | write (p : Path) {text text' : String} (texts : TextAlike text text') :
    Matched (.write p text) (.write p text') Eq
  | same (c : FileCall) (blind : ∀ p, c ≠ .read p) : Matched c c Eq

/-- Two shelves with disks that are alike, and the same otherwise. -/
def Shelf.Alike (s s' : Shelf) : Prop :=
  ∃ disk, s.disk.Alike disk ∧ s' = { s with disk }

namespace Shelf.Alike

variable {s s' : Shelf}

theorem after (h : s.Alike s') {r r' : Except FileError Disk}
    (results : ResultAlike Disk.Alike r r') :
    (s.after r).1.Alike (s'.after r').1 ∧ (s.after r).2 = (s'.after r').2 := by
  cases results with
  | error e => exact ⟨h, rfl⟩
  | ok disks =>
    obtain ⟨disk, _, rfl⟩ := h
    exact ⟨⟨_, disks, rfl⟩, rfl⟩

theorem perform (h : s.Alike s') {c c' : FileCall} {Replies : c.Reply → c'.Reply → Prop}
    (matched : FileCall.Matched c c' Replies) :
    (s.perform c).1.Alike (s'.perform c').1 ∧ Replies (s.perform c).2 (s'.perform c').2 := by
  have alike := h
  obtain ⟨disk, disks, rfl⟩ := h
  cases matched with
  | read p => exact ⟨alike, disks.read p⟩
  | write p texts => exact alike.after (disks.write p texts)
  | same c blind =>
    cases c with
    | freshPath => exact ⟨⟨disk, disks, rfl⟩, rfl⟩
    | write p text => exact alike.after (disks.write p (.same text))
    | link source target => exact alike.after (disks.link source target)
    | rename source target => exact alike.after (disks.rename source target)
    | remove p => exact alike.after (disks.remove p)
    | read p => exact absurd rfl (blind p)
    | takeId => exact ⟨⟨disk, disks, rfl⟩, rfl⟩

end Shelf.Alike

/-- Two scripts of file steps take the same course on alike stores. -/
abbrev Lockstep {α α' : Type} (Ends : α → α' → Prop) (x : FileScript α) (y : FileScript α') :
    Prop :=
  Script.Lockstep FileCall.Matched Ends x y

theorem Lockstep.same {c : FileCall} (blind : ∀ p, c ≠ .read p) :
    Lockstep Eq (.ask c : FileScript c.Reply) (.ask c) :=
  .ask (.same c blind)

theorem Lockstep.write (p : Path) {text text' : String} (texts : TextAlike text text') :
    Lockstep Eq (FileScript.write p text) (FileScript.write p text') :=
  @Script.Lockstep.ask FileCall FileCall.Reply FileCall.Matched (.write p text) (.write p text') _
    (.write p texts)

theorem Lockstep.read (p : Path) :
    Lockstep (ResultAlike TextAlike) (FileScript.read p) (FileScript.read p) :=
  @Script.Lockstep.ask FileCall FileCall.Reply FileCall.Matched _ _ _ (.read p)

theorem lockstep_removeQuietly (p : Path) : Lockstep Eq (removeQuietly p) (removeQuietly p) :=
  (Lockstep.same (by simp)).bind_same fun _ => .pure rfl

theorem lockstep_writeAside {text text' : String} (texts : TextAlike text text') :
    Lockstep Eq (writeAside text) (writeAside text') := by
  refine (Lockstep.same (by simp)).bind_same fun temp => ?_
  refine (Lockstep.write temp texts).bind_same fun written => ?_
  cases written with
  | ok u => exact .pure rfl
  | error e => exact (lockstep_removeQuietly temp).bind_same fun _ => .pure rfl

theorem lockstep_createExclusive (target : Path) (text : String) :
    Lockstep Eq (createExclusive target text) (createExclusive target text) := by
  refine (lockstep_writeAside (.same text)).bind_same fun aside => ?_
  cases aside with
  | error e => exact .pure rfl
  | ok temp =>
    refine (Lockstep.same (by simp)).bind_same fun linked => ?_
    exact (lockstep_removeQuietly temp).bind_same fun _ => .pure rfl

/-- Registering takes the same course, as it reads nothing. -/
theorem lockstep_insert (m : NewMember) : Lockstep Eq (insert m) (insert m) := by
  refine (Lockstep.same (by simp)).bind_same fun id => ?_
  refine (lockstep_createExclusive _ _).bind_same fun reserved => ?_
  split
  · exact .pure rfl
  refine (lockstep_createExclusive _ _).bind_same fun created => ?_
  split
  · exact .pure rfl
  · exact (lockstep_removeQuietly _).bind_same fun _ => .pure rfl

theorem lockstep_find (loginId : String) :
    Lockstep (ResultAlike (Option.Rel Member.Alike)) (find loginId) (find loginId) := by
  rw [find]
  split
  · exact .pure (.ok .none)
  refine (Lockstep.read _).bind fun _ _ reads => ?_
  cases reads with
  | error e =>
    cases e with
    | notFound => exact .pure (.ok .none)
    | alreadyExists => exact .pure (.error _)
    | other => exact .pure (.error _)
  | ok texts =>
    cases texts with
    | same =>
      dsimp only
      split
      · exact .pure (.ok (.some (.refl _)))
      · exact .pure (.error _)
    | documents here there members =>
      simp only [here, there]
      exact .pure (.ok (.some members))

/-- A change of the hash writes documents that are alike again. -/
theorem lockstep_update (loginId passwordHash : String) :
    Lockstep Eq (update loginId passwordHash) (update loginId passwordHash) := by
  refine (lockstep_find loginId).bind fun _ _ found => ?_
  cases found with
  | error e => exact .pure rfl
  | ok found =>
    cases found with
    | none => exact .pure rfl
    | some members =>
      have documents := (members.rehash passwordHash).document
      refine (lockstep_writeAside documents).bind_same fun aside => ?_
      cases aside with
      | error e => exact .pure rfl
      | ok temp =>
        refine (Lockstep.same (by simp)).bind_same fun renamed => ?_
        cases renamed with
        | ok u => exact .pure rfl
        | error e => exact (lockstep_removeQuietly temp).bind_same fun _ => .pure rfl

end Store

end MemberAuth
