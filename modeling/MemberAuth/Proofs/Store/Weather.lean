import MemberAuth.Proofs.Store.Resilience

/-!
# Stores in any weather

The operations of a store take file steps at its own places only. So whatever a store goes through,
with steps of any number of operations in any order, steps that fail, operations that never come to
their end and openings in between, its disk has the two folders, files at the places of the store and
nothing else. That is enough for changes of hashes to be exact: one that succeeds replaces the hash
in one document, and one that fails leaves all but temporary files as they were.
-/
namespace MemberAuth.Store

open Trial

/-- The step is at places of the store. -/
def FileCall.AtSites : FileCall → Prop
  | .write p _ | .remove p | .read p => ∃ x : Site, p = x.path
  | .link source target | .rename source target =>
    (∃ x : Site, source = x.path) ∧ ∃ y : Site, target = y.path
  | .freshPath | .takeId => True

/-- A store that was opened on an empty directory, after any steps at its places, failing or not,
and after being opened again on what they left. -/
inductive Shelf.Weathered : Shelf → Prop
  | opened {n s} (ok : (openOn Disk.empty n).2 = .ok s) : Weathered s
  | step {t c t' r} (before : Weathered t.shelf) (own : FileCall.AtSites c)
    (step : Trial.Step (fun _ => True) t c t' r) : Weathered t'.shelf
  | reopened {s n s'} (before : Weathered s) (ok : (openOn s.disk n).2 = .ok s') : Weathered s'

section Holding

variable {fails : FileCall → Prop} {v v' : Contents} {s s' : Shelf} {d d' : Disk}

theorem Holds.perform (h : Holds s.disk v) {c : FileCall} (own : c.AtSites) :
    ∃ v', Holds (s.perform c).1.disk v' := by
  cases c with
  | freshPath => exact ⟨v, h⟩
  | takeId => exact ⟨v, h⟩
  | read p => exact ⟨v, h⟩
  | write p text =>
    obtain ⟨x, rfl⟩ := own
    obtain ⟨disk, written, holds⟩ := h.write x text
    rw [Shelf.perform, written]
    exact ⟨_, holds⟩
  | link source target =>
    obtain ⟨_, y, rfl⟩ := own
    simp only [Shelf.perform, Shelf.after]
    split
    · rename_i disk linked
      obtain ⟨_, _, text, _, rfl⟩ := Disk.link_ok linked
      exact ⟨_, h.set y text⟩
    · exact ⟨v, h⟩
  | rename source target =>
    obtain ⟨⟨x, rfl⟩, y, rfl⟩ := own
    simp only [Shelf.perform, Shelf.after]
    split
    · rename_i disk renamed
      obtain ⟨_, text, _, rfl⟩ := Disk.rename_ok renamed
      exact ⟨_, (h.erase x).set y text⟩
    · exact ⟨v, h⟩
  | remove p =>
    obtain ⟨x, rfl⟩ := own
    simp only [Shelf.perform, Shelf.after]
    split
    · rename_i disk removed
      obtain ⟨_, _, rfl⟩ := Disk.remove_ok removed
      exact ⟨_, h.erase x⟩
    · exact ⟨v, h⟩

theorem Holds.step {t t' : Trial} (h : Holds t.shelf.disk v) {c : FileCall} {r : c.Reply}
    (own : c.AtSites) (step : Step fails t c t' r) : ∃ v', Holds t'.shelf.disk v' := by
  cases step with
  | done => exact h.perform own
  | writePart may part e => exact h.perform (c := .write _ part) own
  | _ => exact ⟨v, h⟩

/-- Opening a store writes nothing if the folders are there. -/
theorem Holds.openOn (h : Holds d v) {n : Nat} (ok : (openOn d n).2 = .ok s) :
    ∃ nextId, s = ⟨d, nextId, n⟩ := by
  rw [Store.openOn, h.makeFolders] at ok
  dsimp only at ok
  cases ids : firstId (d.children membersFolder) with
  | error e =>
    rw [ids] at ok
    cases ok
  | ok nextId =>
    rw [ids] at ok
    cases ok
    exact ⟨nextId, rfl⟩

theorem Shelf.Weathered.holds (h : s.Weathered) : ∃ v, Holds s.disk v := by
  induction h with
  | opened ok =>
    rw [Workshop.openOn_empty] at ok
    cases ok
    exact ⟨_, Workshop.holds_bareDisk⟩
  | step before own step ih =>
    obtain ⟨v, holds⟩ := ih
    exact holds.step own step
  | reopened before ok ih =>
    obtain ⟨v, holds⟩ := ih
    obtain ⟨_, rfl⟩ := holds.openOn ok
    exact ⟨v, holds⟩

end Holding

section Scripts

/-- Whatever fails, every step of the script is at places of the store. -/
inductive Stays {α : Type} : FileScript α → Prop
  | done (a : α) : Stays (.done a)
  | call {c next} (own : FileCall.AtSites c)
    (later : ∀ {t t' r}, Trial.Step (fun _ => True) t c t' r → Stays (next r)) :
    Stays (.call c next)

variable {α β : Type}

theorem Stays.bind {x : FileScript α} {f : α → FileScript β} (h : Stays x)
    (later : ∀ a, Stays (f a)) : Stays (x >>= f) := by
  induction h with
  | done a => exact later a
  | call own _ ih => exact .call own fun step => ih step

theorem Stays.ask {c : FileCall} {f : c.Reply → FileScript β} (own : c.AtSites)
    (later : ∀ r, Stays (f r)) : Stays (Script.ask c >>= f) :=
  .call own fun _ => later _

theorem stays_removeQuietly (x : Site) : Stays (removeQuietly x.path) :=
  .ask ⟨x, rfl⟩ fun _ => .done _

/-- What follows a text written aside is given a temporary path or a failure. -/
theorem stays_writeAside {text : String} {f : Except Failure Path → FileScript α}
    (written : ∀ n, Stays (f (.ok (Site.temporary n).path))) (failed : ∀ e, Stays (f (.error e))) :
    Stays (writeAside text >>= f) := by
  refine .call trivial fun step => ?_
  cases step
  refine .call ⟨.temporary _, rfl⟩ fun {_ _ r} _ => ?_
  cases r with
  | ok _ => exact written _
  | error e => exact (stays_removeQuietly (.temporary _)).bind fun _ => failed _

theorem stays_createExclusive (x : Site) (text : String) : Stays (createExclusive x.path text) := by
  refine stays_writeAside (fun n => ?_) fun e => .done _
  refine .ask ⟨⟨.temporary n, rfl⟩, x, rfl⟩ fun _ => ?_
  exact (stays_removeQuietly (.temporary n)).bind fun _ => .done _

theorem stays_find (loginId : String) : Stays (find loginId) := by
  rw [find]
  split
  · exact .done _
  refine .ask ⟨.document loginId, rfl⟩ fun r => ?_
  split
  · exact .done _
  · exact .done _
  split
  · exact .done _
  · exact .done _

theorem stays_insert (m : NewMember) : Stays (insert m) := by
  refine .ask trivial fun id => ?_
  refine (stays_createExclusive (.reservation m.email.key) _).bind fun created => ?_
  split
  · exact .done _
  refine (stays_createExclusive (.document m.loginId.text) _).bind fun created => ?_
  split
  · exact .done _
  · exact (stays_removeQuietly (.reservation m.email.key)).bind fun _ => .done _

theorem stays_update (loginId passwordHash : String) : Stays (update loginId passwordHash) := by
  refine (stays_find loginId).bind fun found => ?_
  split
  · exact .done _
  · exact .done _
  refine stays_writeAside (fun n => ?_) fun e => .done _
  refine .ask ⟨⟨.temporary n, rfl⟩, .document loginId, rfl⟩ fun r => ?_
  split
  · exact .done _
  · exact (stays_removeQuietly (.temporary n)).bind fun _ => .done _

variable {fails : FileCall → Prop} {script : FileScript α} {t t' : Trial}

theorem Trial.Step.mono {c : FileCall} {r : c.Reply} (step : Step fails t c t' r) :
    Step (fun _ => True) t c t' r := by
  cases step with
  | done => exact .done c
  | write may e => exact .write trivial e
  | writePart may part e => exact .writePart trivial part e
  | link may e => exact .link trivial e
  | rename may e => exact .rename trivial e
  | remove may e => exact .remove trivial e
  | read may e => exact .read trivial e

/-- An operation leaves a store weathered wherever it is cut off. -/
theorem Shelf.Weathered.carried (h : t.shelf.Weathered) (stays : Stays script) {result : Option α}
    (carried : Carried fails script t t' result) : t'.shelf.Weathered := by
  induction carried with
  | finished a t => exact h
  | cutOff script t => exact h
  | step first rest ih =>
    cases stays with
    | call own later => exact ih (h.step own first.mono) (later first.mono)

/-- On a sound disk, a script is carried out as it runs. -/
theorem carried_run (fails : FileCall → Prop) (script : FileScript α) (t : Trial) : ∃ placed,
    Carried fails script t ⟨(script.run Shelf.perform t.shelf).1, placed⟩
      (some (script.run Shelf.perform t.shelf).2) := by
  induction script generalizing t with
  | done a => exact ⟨t.placed, .finished a t⟩
  | call c next ih =>
    obtain ⟨placed, rest⟩ := ih _ (t.carryOut c)
    exact ⟨placed, .step (.done c) rest⟩

/-- With no failing step, nothing else can come of it. -/
theorem Trial.Carried.run_eq {a : α} (carried : Carried fails script t t' (some a))
    (sound : ∀ c, ¬ fails c) : script.run Shelf.perform t.shelf = (t'.shelf, a) := by
  generalize ended : some a = result at carried
  induction carried with
  | finished b t =>
    cases ended
    rfl
  | cutOff => cases ended
  | step first rest ih =>
    obtain ⟨rfl, rfl⟩ := first.sound (sound _)
    exact ih ended

end Scripts

section Rehashing

variable {fails : FileCall → Prop} {v v' : Contents} {s s' : Shelf} {t : Trial}
  {loginId passwordHash : String}

/-- All files but temporary ones are as they were, and so are the members. -/
structure Shelf.Unchanged (s s' : Shelf) : Prop where
  files : ∀ q, (∀ n, q ≠ temporaryPath n) → s'.disk.entry? q = s.disk.entry? q
  members : ∀ loginId, s'.find loginId = s.find loginId

/-- The stored member has another hash. All other files are as they were, but for temporary ones. -/
structure Shelf.Rehashed (s s' : Shelf) (loginId passwordHash : String) (old : Member) : Prop where
  before : s.find loginId = .ok (some old)
  after : s'.find loginId = .ok (some { old with passwordHash })
  files : ∀ q, q ≠ documentPath loginId → (∀ n, q ≠ temporaryPath n) →
    s'.disk.entry? q = s.disk.entry? q
  members : ∀ other, other ≠ loginId → s'.find other = s.find other

/-- What a look-up concludes from the reading of a document. -/
def found : Except FileError String → Except Failure (Option Member)
  | .error .notFound => .ok none
  | .error _ => .error ioFailure
  | .ok text =>
    match Member.parse text with
    | .ok m => .ok (some m)
    | .error _ => .error .json

theorem find_eq (valid : LoginId.check loginId = .ok ()) :
    Store.find loginId = .call (.read (documentPath loginId)) fun r => .done (found r) := by
  rw [Store.find, valid]
  refine congrArg (Script.call _) (funext fun r => ?_)
  rcases r with e | text
  · cases e <;> rfl
  · cases parsed : Member.parse text with
    | ok m => simp only [Script.bind, found, parsed]; rfl
    | error e => simp only [Script.bind, found, parsed]; rfl

theorem find_of_invalid {e : FieldError} (invalid : LoginId.check loginId = .error e) :
    Store.find loginId = .done (.ok none) := by
  rw [Store.find, invalid]
  rfl

theorem Shelf.find_congr
    (same : s'.disk.read (documentPath loginId) = s.disk.read (documentPath loginId)) :
    s'.find loginId = s.find loginId := by
  rw [find, find]
  cases check : LoginId.check loginId with
  | error e => rw [find_of_invalid check, Script.run, Script.run]
  | ok _ =>
    rw [find_eq check]
    exact congrArg found same

theorem Holds.find_eq (h : Holds s.disk v) (h' : Holds s'.disk v')
    (same : v' (.document loginId) = v (.document loginId)) : s'.find loginId = s.find loginId := by
  apply Shelf.find_congr
  cases there : v (.document loginId) with
  | none => exact (h'.read_none (same.trans there)).trans (h.read_none there).symm
  | some text => exact (h'.read (same.trans there)).trans (h.read there).symm

theorem Holds.find_has (h : Holds s.disk v) {m : Member} (has : v.Has loginId m) :
    s.find loginId = .ok (some m) := by
  obtain ⟨valid, text, there, parsed⟩ := has
  exact Shelf.find_eq_some.mpr ⟨valid, text, Disk.read_eq_ok.mp (h.read there), parsed⟩

theorem Holds.unchanged (h : Holds s.disk v) (h' : Holds s'.disk v')
    (same : ∀ x : Site, (∀ n, x ≠ .temporary n) → v' x = v x) : s.Unchanged s' := by
  constructor
  · intro q lasting
    apply h.entry?_eq h'
    rintro x rfl
    exact same x fun n temporary => lasting n (congrArg Site.path temporary)
  · intro loginId
    exact h.find_eq h' (same _ (by simp))

theorem Holds.rehashed (h : Holds s.disk v) (h' : Holds s'.disk v') {m : Member}
    (has : v.Has loginId m)
    (placed : v' (.document loginId) = some { m with passwordHash }.document)
    (same : ∀ x : Site, x ≠ .document loginId → (∀ n, x ≠ .temporary n) → v' x = v x) :
    s.Rehashed s' loginId passwordHash m := by
  refine ⟨h.find_has has, h'.find_has ⟨has.1, _, placed, Member.parse_document _⟩, ?_, ?_⟩
  · intro q other lasting
    apply h.entry?_eq h'
    rintro x rfl
    exact same x (fun own => other (congrArg Site.path own))
      fun n temporary => lasting n (congrArg Site.path temporary)
  · intro other apart
    exact h.find_eq h' (same _ (by simpa using apart) (by simp))

/-- Whatever fails, a change of a hash is made in full if it says so, and otherwise not at all. -/
theorem Shelf.Weathered.update (h : s.Weathered) {r : Except Failure Unit}
    (carried : Carried fails (Store.update loginId passwordHash) ⟨s, []⟩ t (some r)) :
    (r = .ok () → ∃ old, s.Rehashed t.shelf loginId passwordHash old) ∧
      ∀ e, r = .error e → s.Unchanged t.shelf := by
  obtain ⟨v, holds⟩ := h.holds
  have guarded : Guarded fails (fun _ => True)
      (fun r t => (r = .ok () → ∃ old, s.Rehashed t.shelf loginId passwordHash old) ∧
        ∀ e, r = .error e → s.Unchanged t.shelf)
      (Store.update loginId passwordHash) ⟨s, []⟩ := by
    apply guarded_replace ⟨holds, rfl, rfl, rfl⟩
    case still => exact fun _ _ => trivial
    case amid => exact fun _ _ _ => trivial
    case unread =>
      intro t failure shows
      refine ⟨nofun, fun e _ => holds.unchanged shows.holds fun _ _ => rfl⟩
    case failed =>
      intro t part failure shows _
      refine ⟨nofun, fun e _ => holds.unchanged shows.holds fun x lasting => ?_⟩
      exact Function.update_of_ne (lasting _) ..
    case replaced =>
      intro t m has shows
      refine ⟨trivial, fun _ => ⟨m, ?_⟩, nofun⟩
      refine holds.rehashed shows.holds has (Function.update_self ..) fun x other lasting => ?_
      rw [Function.update_of_ne other, Function.update_of_ne (lasting _)]
  exact (guarded.carried carried).2 r rfl

/-- With no failing step, the hash of a stored member is changed. -/
theorem Shelf.Weathered.update_ok (h : s.Weathered) {m : Member}
    (stored : s.find loginId = .ok (some m)) (sound : ∀ c, ¬ fails c) {r : Except Failure Unit}
    (carried : Carried fails (Store.update loginId passwordHash) ⟨s, []⟩ t (some r)) :
    r = .ok () := by
  obtain ⟨v, holds⟩ := h.holds
  have ran := carried.run_eq sound
  obtain ⟨disk, written, aside⟩ := run_writeAside holds { m with passwordHash }.document
  obtain ⟨disk', renamed, _⟩ :=
    aside.rename (x := .temporary s.freshCount) (Function.update_self ..) (.document loginId)
  have renamed : disk.rename (temporaryPath s.freshCount) (documentPath loginId) = .ok disk' :=
    renamed
  rw [Store.update, Script.run_bind, Shelf.run_find, stored] at ran
  dsimp only at ran
  rw [Script.run_bind, written] at ran
  simp only [FileScript.rename, Script.run_bind, Script.run_ask, Shelf.perform, Shelf.after,
    renamed] at ran
  exact (congrArg Prod.snd ran).symm

/-- A look-up leaves the store alone. It finds what is there, unless reading fails. -/
theorem Trial.Carried.find {ps : List Path} {r : Except Failure (Option Member)}
    (carried : Carried fails (Store.find loginId) ⟨s, ps⟩ t (some r)) :
    t.shelf = s ∧ (r = s.find loginId ∨ (∃ p, fails (.read p)) ∧ ∀ m, r ≠ .ok (some m)) := by
  rw [Shelf.find]
  cases check : LoginId.check loginId with
  | error e =>
    rw [find_of_invalid check] at carried ⊢
    cases carried
    exact ⟨rfl, Or.inl rfl⟩
  | ok _ =>
    rw [find_eq check] at carried ⊢
    cases carried with
    | step first rest =>
      cases rest
      cases first with
      | done => exact ⟨rfl, Or.inl rfl⟩
      | read may e =>
        refine ⟨rfl, Or.inr ⟨⟨_, may⟩, ?_⟩⟩
        intro m there
        cases e with
        | notFound => cases there
        | alreadyExists => cases there
        | other => cases there

end Rehashing

end MemberAuth.Store
