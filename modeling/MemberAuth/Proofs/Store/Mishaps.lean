import MemberAuth.Proofs.Store.Filing

/-!
# Scripts whose steps may fail

A file step either does what it does on a sound disk, or fails with any error: a write then leaves a
part of its text or nothing, the other steps leave everything as it was. A script under way may also
be cut off after any step. To say what holds all the way, a script is followed step by step: a
condition has to hold before each of its steps and at its end, whatever fails.
-/
namespace MemberAuth.Store

/-- The store during an operation, and the paths at which the operation has put a file in place. -/
structure Trial where
  shelf : Shelf
  placed : List Path

/-- Where a step puts a file in place that was written before. -/
def FileCall.placement : (c : FileCall) → c.Reply → List Path
  | .link _ target, .ok () => [target]
  | .rename _ target, .ok () => [target]
  | _, _ => []

namespace Trial

def carryOut (t : Trial) (c : FileCall) : Trial :=
  ⟨(t.shelf.perform c).1, t.placed ++ c.placement (t.shelf.perform c).2⟩

/-- A step of an operation. Those that may fail are given, and so is no other one expected to. -/
inductive Step (fails : FileCall → Prop) (t : Trial) : (c : FileCall) → Trial → c.Reply → Prop
  | done (c : FileCall) : Step fails t c (t.carryOut c) (t.shelf.perform c).2
  | write {p text} (may : fails (.write p text)) (e : FileError) :
    Step fails t (.write p text) t (.error e)
  /-- The text that the failed write leaves. -/
  | writePart {p text} (may : fails (.write p text)) (part : String) (e : FileError) :
    Step fails t (.write p text) { t with shelf := (t.shelf.perform (.write p part)).1 } (.error e)
  | link {source target} (may : fails (.link source target)) (e : FileError) :
    Step fails t (.link source target) t (.error e)
  | rename {source target} (may : fails (.rename source target)) (e : FileError) :
    Step fails t (.rename source target) t (.error e)
  | remove {p} (may : fails (.remove p)) (e : FileError) : Step fails t (.remove p) t (.error e)
  | read {p} (may : fails (.read p)) (e : FileError) : Step fails t (.read p) t (.error e)

/-- A script is carried out to its end, or cut off before any of its steps. -/
inductive Carried (fails : FileCall → Prop) {α : Type} :
    FileScript α → Trial → Trial → Option α → Prop
  | finished (a : α) (t : Trial) : Carried fails (.done a) t t (some a)
  | cutOff (script : FileScript α) (t : Trial) : Carried fails script t t none
  | step {c next t t' r last result} (first : Step fails t c t' r)
    (rest : Carried fails (next r) t' last result) : Carried fails (.call c next) t last result

/-- Whatever fails, `always` holds before each step and in the end, and `ends` of the end. -/
inductive Guarded (fails : FileCall → Prop) (always : Trial → Prop) {α : Type}
    (ends : α → Trial → Prop) : FileScript α → Trial → Prop
  | done {a t} (now : always t) (h : ends a t) : Guarded fails always ends (.done a) t
  | call {c next t} (now : always t)
    (later : ∀ t' r, Step fails t c t' r → Guarded fails always ends (next r) t') :
    Guarded fails always ends (.call c next) t

variable {fails : FileCall → Prop} {always : Trial → Prop} {α β : Type} {ends : α → Trial → Prop}

theorem Guarded.carried {script : FileScript α} {t last : Trial} {result : Option α}
    (h : Guarded fails always ends script t) (carried : Carried fails script t last result) :
    always last ∧ ∀ a, result = some a → ends a last := by
  induction carried with
  | finished a t =>
    cases h with
    | done now h =>
      refine ⟨now, ?_⟩
      rintro b ⟨⟩
      exact h
  | cutOff script t =>
    refine ⟨?_, by simp⟩
    cases h with
    | done now _ => exact now
    | call now _ => exact now
  | step first rest ih =>
    cases h with
    | call _ later => exact ih (later _ _ first)

theorem Guarded.bind {x : FileScript α} {f : α → FileScript β} {ends : β → Trial → Prop} {t : Trial}
    (h : Guarded fails always (fun a t => Guarded fails always ends (f a) t) x t) :
    Guarded fails always ends (x >>= f) t := by
  induction h with
  | done _ h => exact h
  | call now _ ih => exact .call now ih

/-- One call, and what follows it. -/
theorem Guarded.ask {c : FileCall} {f : c.Reply → FileScript β} {ends : β → Trial → Prop}
    {t : Trial} (now : always t)
    (later : ∀ t' r, Step fails t c t' r → Guarded fails always ends (f r) t') :
    Guarded fails always ends (Script.ask c >>= f) t :=
  .call now later

/-- A step that may not fail does what it does on a sound disk. -/
theorem Step.sound {c : FileCall} {t t' : Trial} {r : c.Reply} (step : Step fails t c t' r)
    (sound : ¬ fails c) : t' = t.carryOut c ∧ r = (t.shelf.perform c).2 := by
  cases step with
  | done => exact ⟨rfl, rfl⟩
  | write may e => exact absurd may sound
  | writePart may part e => exact absurd may sound
  | link may e => exact absurd may sound
  | rename may e => exact absurd may sound
  | remove may e => exact absurd may sound
  | read may e => exact absurd may sound

theorem Guarded.mono {ends' : α → Trial → Prop} {script : FileScript α} {t : Trial}
    (h : Guarded fails always ends script t) (weaker : ∀ a t, ends a t → ends' a t) :
    Guarded fails always ends' script t := by
  induction h with
  | done now h => exact .done now (weaker _ _ h)
  | call now _ ih => exact .call now ih

/-- With no failing step, a script ends with the value that it has on a sound disk. -/
theorem Guarded.of_run {script : FileScript α} {t : Trial} (sound : ∀ c, ¬ fails c)
    (h : Guarded fails always ends script t) :
    Guarded fails always (fun a t' => a = (script.run Shelf.perform t.shelf).2 ∧ ends a t')
      script t := by
  induction h with
  | done now h => exact .done now ⟨rfl, h⟩
  | call now _ ih =>
    refine .call now fun t' r step => ?_
    have went := ih t' r step
    obtain ⟨rfl, rfl⟩ := step.sound (sound _)
    exact went

section Files

variable {t : Trial} {v : Contents} {f : β → FileScript β}

/-- The store during an operation has these files, these numbers, and these paths were put in place.
-/
structure Shows (t : Trial) (v : Contents) (nextId : Int64) (freshCount : Nat) (placed : List Path) :
    Prop where
  holds : Holds t.shelf.disk v
  nextId : t.shelf.nextId = nextId
  freshCount : t.shelf.freshCount = freshCount
  placed : t.placed = placed

variable {i : Int64} {n : Nat} {ps : List Path} {t' : Trial}

namespace Shows

theorem takeId (h : t.Shows v i n ps) {r : Int64} (step : Step fails t .takeId t' r) :
    r = i ∧ t'.Shows v (i + 1) n ps := by
  cases step with
  | done =>
    refine ⟨h.nextId, h.holds, ?_, h.freshCount, ?_⟩
    · change t.shelf.nextId + 1 = i + 1
      rw [h.nextId]
    · exact (List.append_nil _).trans h.placed

theorem freshPath (h : t.Shows v i n ps) {r : Path} (step : Step fails t .freshPath t' r) :
    r = (Site.temporary n).path ∧ t'.Shows v i (n + 1) ps := by
  cases step with
  | done =>
    refine ⟨congrArg temporaryPath h.freshCount, h.holds, h.nextId, ?_, ?_⟩
    · exact congrArg (· + 1) h.freshCount
    · exact (List.append_nil _).trans h.placed

/-- A write that fails leaves anything. -/
theorem write (h : t.Shows v i n ps) {x : Site} {text : String} {r : Except FileError Unit}
    (step : Step fails t (.write x.path text) t' r) :
    (r = .ok () ∧ t'.Shows (Function.update v x (some text)) i n ps) ∨
      ∃ e part, r = .error e ∧ t'.Shows (Function.update v x part) i n ps := by
  obtain ⟨holds, hi, hn, hp⟩ := h
  cases step with
  | done =>
    obtain ⟨disk, written, after⟩ := holds.write x text
    have performed : t.shelf.perform (.write x.path text) = ({ t.shelf with disk }, .ok ()) :=
      congrArg t.shelf.after written
    refine Or.inl ⟨?_, ?_⟩
    · rw [performed]
    · rw [carryOut, performed]
      exact ⟨after, hi, hn, (List.append_nil _).trans hp⟩
  | write may e =>
    refine Or.inr ⟨e, v x, rfl, ?_⟩
    rw [Function.update_eq_self]
    exact ⟨holds, hi, hn, hp⟩
  | writePart may part e =>
    obtain ⟨disk, written, after⟩ := holds.write x part
    have performed : t.shelf.perform (.write x.path part) = ({ t.shelf with disk }, .ok ()) :=
      congrArg t.shelf.after written
    refine Or.inr ⟨e, some part, rfl, ?_⟩
    rw [performed]
    exact ⟨after, hi, hn, hp⟩

/-- A link puts a copy in place where nothing was, or does nothing. -/
theorem link (h : t.Shows v i n ps) {x y : Site} {text : String} (there : v x = some text)
    {r : Except FileError Unit} (step : Step fails t (.link x.path y.path) t' r) :
    (r = .ok () ∧ v y = none ∧ t'.Shows (Function.update v y (some text)) i n (ps ++ [y.path])) ∨
      ∃ e, r = .error e ∧ t'.Shows v i n ps := by
  cases step with
  | done =>
    obtain ⟨holds, hi, hn, hp⟩ := h
    cases free : v y with
    | none =>
      obtain ⟨disk, linked, after⟩ := holds.link there free
      have performed : t.shelf.perform (.link x.path y.path) = ({ t.shelf with disk }, .ok ()) :=
        congrArg t.shelf.after linked
      refine Or.inl ⟨?_, rfl, ?_⟩
      · rw [performed]
      · rw [carryOut, performed]
        exact ⟨after, hi, hn, congrArg (· ++ [y.path]) hp⟩
    | some other =>
      have performed : t.shelf.perform (.link x.path y.path) = (t.shelf, .error .alreadyExists) :=
        congrArg t.shelf.after (holds.link_taken there free)
      refine Or.inr ⟨.alreadyExists, ?_, ?_⟩
      · rw [performed]
      · rw [carryOut, performed]
        exact ⟨holds, hi, hn, (List.append_nil _).trans hp⟩
  | link may e => exact Or.inr ⟨e, rfl, h⟩

/-- A renaming moves a file, or does nothing. -/
theorem rename (h : t.Shows v i n ps) {x : Site} (y : Site) {text : String}
    (there : v x = some text) {r : Except FileError Unit}
    (step : Step fails t (.rename x.path y.path) t' r) :
    (r = .ok () ∧ t'.Shows (Function.update (Function.update v x none) y (some text)) i n
        (ps ++ [y.path])) ∨
      ∃ e, r = .error e ∧ t'.Shows v i n ps := by
  cases step with
  | done =>
    obtain ⟨holds, hi, hn, hp⟩ := h
    obtain ⟨disk, renamed, after⟩ := holds.rename there y
    have performed : t.shelf.perform (.rename x.path y.path) = ({ t.shelf with disk }, .ok ()) :=
      congrArg t.shelf.after renamed
    refine Or.inl ⟨?_, ?_⟩
    · rw [performed]
    · rw [carryOut, performed]
      exact ⟨after, hi, hn, congrArg (· ++ [y.path]) hp⟩
  | rename may e => exact Or.inr ⟨e, rfl, h⟩

/-- A file is gone after its removal, unless removals may fail. -/
theorem remove (h : t.Shows v i n ps) {x : Site} {r : Except FileError Unit}
    (step : Step fails t (.remove x.path) t' r) :
    t'.Shows (Function.update v x none) i n ps ∨ fails (.remove x.path) ∧ t'.Shows v i n ps := by
  cases step with
  | done =>
    obtain ⟨holds, hi, hn, hp⟩ := h
    cases there : v x with
    | some text =>
      obtain ⟨disk, removed, after⟩ := holds.remove there
      have performed : t.shelf.perform (.remove x.path) = ({ t.shelf with disk }, .ok ()) :=
        congrArg t.shelf.after removed
      refine Or.inl ?_
      rw [carryOut, performed]
      exact ⟨after, hi, hn, (List.append_nil _).trans hp⟩
    | none =>
      have entry : t.shelf.disk.entry? x.path = none := by rw [holds.sites, there, Option.map_none]
      have refused : t.shelf.disk.remove x.path = .error (t.shelf.disk.absence x.path) := by
        rw [Disk.remove, entry]
      have performed : t.shelf.perform (.remove x.path) =
          (t.shelf, .error (t.shelf.disk.absence x.path)) := congrArg t.shelf.after refused
      refine Or.inl ?_
      rw [carryOut, performed, update_none there]
      exact ⟨holds, hi, hn, (List.append_nil _).trans hp⟩
  | remove may e => exact Or.inr ⟨may, h⟩

/-- Reading changes nothing. -/
theorem read (h : t.Shows v i n ps) {x : Site} {r : Except FileError String}
    (step : Step fails t (.read x.path) t' r) :
    t'.Shows v i n ps ∧ ∀ text, r = .ok text → v x = some text := by
  cases step with
  | done =>
    obtain ⟨holds, hi, hn, hp⟩ := h
    exact ⟨⟨holds, hi, hn, (List.append_nil _).trans hp⟩, fun text ok => holds.read_eq_ok.mp ok⟩
  | read may e =>
    refine ⟨h, ?_⟩
    intro text ok
    cases ok

end Shows

end Files

end Trial

end MemberAuth.Store
