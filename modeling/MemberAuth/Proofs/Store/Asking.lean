import MemberAuth.Store.Members

/-!
# Which file steps an operation can ask for

The operations of a store are scripts that ask for one file step after another. Here each of them is
gone through once, for all replies, with the steps that it may ask for listed as constructors. What
is true of each listed step is then true of the operation.
-/
namespace MemberAuth.Store

/-- The reply is one that the step can have, if fresh paths are of a certain kind. -/
def FileCall.Fair (aside : Path → Prop) : (c : FileCall) → c.Reply → Prop
  | .freshPath, p => aside p
  | _, _ => True

theorem FileCall.fair_of_any (c : FileCall) (r : c.Reply) : Fair (fun _ => True) c r := by
  cases c <;> exact trivial

/-- Every step that the script asks for is one that it may, whatever the replies are. -/
inductive Asks (aside : Path → Prop) (may : FileCall → Prop) {α : Type} : FileScript α → Prop
  | done (a : α) : Asks aside may (.done a)
  | call {c next} (allowed : may c) (later : ∀ r, c.Fair aside r → Asks aside may (next r)) :
      Asks aside may (.call c next)

/-- Writing a text aside, and clearing it away. -/
inductive AsideStep (aside : Path → Prop) : FileCall → Prop
  | fresh : AsideStep aside .freshPath
  | write {p} (own : aside p) (text : String) : AsideStep aside (.write p text)
  | remove {p} (own : aside p) : AsideStep aside (.remove p)

/-- Putting a text in place where nothing is. -/
inductive CreateStep (aside : Path → Prop) (target : Path) : FileCall → Prop
  | aside {c} (step : AsideStep aside c) : CreateStep aside target c
  | link {p} (own : aside p) : CreateStep aside target (.link p target)

/-- What an insertion does after it took an id. -/
inductive InsertStep (aside : Path → Prop) (m : NewMember) : FileCall → Prop
  | reserve {c} (step : CreateStep aside (reservationPath m.email) c) : InsertStep aside m c
  | publish {c} (step : CreateStep aside (documentPath m.loginId.text) c) : InsertStep aside m c
  | release : InsertStep aside m (.remove (reservationPath m.email))

inductive FindStep (loginId : String) : FileCall → Prop
  | read : FindStep loginId (.read (documentPath loginId))

inductive UpdateStep (aside : Path → Prop) (loginId : String) : FileCall → Prop
  | find {c} (step : FindStep loginId c) : UpdateStep aside loginId c
  | aside {c} (step : AsideStep aside c) : UpdateStep aside loginId c
  | rename {p} (own : aside p) : UpdateStep aside loginId (.rename p (documentPath loginId))

variable {aside : Path → Prop} {may more : FileCall → Prop} {α β : Type} {p : Path}

namespace Asks

theorem mono {x : FileScript α} (h : Asks aside may x) (wider : ∀ c, may c → more c) :
    Asks aside more x := by
  induction h with
  | done a => exact .done a
  | call allowed _ ih => exact .call (wider _ allowed) ih

theorem bind {x : FileScript α} {f : α → FileScript β} (h : Asks aside may x)
    (later : ∀ a, Asks aside may (f a)) : Asks aside may (x >>= f) := by
  induction h with
  | done a => exact later a
  | call allowed _ ih => exact .call allowed ih

theorem ask {c : FileCall} {f : c.Reply → FileScript β} (allowed : may c)
    (later : ∀ r, Asks aside may (f r)) : Asks aside may (Script.ask c >>= f) :=
  .call allowed fun r _ => later r

end Asks

theorem asks_removeQuietly (allowed : may (.remove p)) : Asks aside may (removeQuietly p) :=
  .ask allowed fun _ => .done _

/-- What follows a text written aside is given such a path or a failure. -/
theorem asks_writeAside {text : String} {f : Except Failure Path → FileScript α}
    (steps : ∀ c, AsideStep aside c → may c)
    (done : ∀ p, aside p → Asks aside may (f (.ok p)))
    (failed : ∀ e, Asks aside may (f (.error e))) : Asks aside may (writeAside text >>= f) := by
  refine .call (steps _ .fresh) fun temp own => ?_
  refine .call (steps _ (.write own text)) fun r _ => ?_
  cases r with
  | ok _ => exact done temp own
  | error e => exact (asks_removeQuietly (steps _ (.remove own))).bind fun _ => failed _

theorem asks_createExclusive (aside : Path → Prop) (target : Path) (text : String) :
    Asks aside (CreateStep aside target) (createExclusive target text) := by
  refine asks_writeAside (fun c => .aside) (fun temp own => ?_) fun e => .done _
  refine .ask (.link own) fun _ => ?_
  exact (asks_removeQuietly (.aside (.remove own))).bind fun _ => .done _

/-- An insertion takes an id first, and only then. -/
theorem asks_insert (aside : Path → Prop) (m : NewMember) :
    ∃ rest, insert m = Script.ask .takeId >>= rest ∧
      ∀ id, Asks aside (InsertStep aside m) (rest id) := by
  refine ⟨_, rfl, fun id => ?_⟩
  refine ((asks_createExclusive aside _ _).mono fun c => .reserve).bind fun reserved => ?_
  split
  · exact .done _
  refine ((asks_createExclusive aside _ _).mono fun c => .publish).bind fun published => ?_
  split
  · exact .done _
  · exact (asks_removeQuietly .release).bind fun _ => .done _

/-- A text that is no login id leads to no step. -/
theorem asks_find (aside : Path → Prop) (loginId : String) :
    Asks aside (fun c => LoginId.check loginId = .ok () ∧ FindStep loginId c) (find loginId) := by
  rw [find]
  split
  · exact .done _
  rename_i accepted
  refine .ask ⟨accepted, .read⟩ fun r => ?_
  split
  · exact .done _
  · exact .done _
  split
  · exact .done _
  · exact .done _

theorem asks_update (aside : Path → Prop) (loginId passwordHash : String) :
    Asks aside (fun c => LoginId.check loginId = .ok () ∧ UpdateStep aside loginId c)
      (update loginId passwordHash) := by
  cases accepted : LoginId.check loginId with
  | error e =>
    have nothing : find loginId = pure (.ok none) := by rw [find, accepted]
    rw [update, nothing]
    exact .done _
  | ok _ =>
    have look : Asks aside (UpdateStep aside loginId) (find loginId) :=
      (asks_find aside loginId).mono fun c step => .find step.2
    refine .mono ?_ fun c step => ⟨rfl, step⟩
    refine look.bind fun found => ?_
    split
    · exact .done _
    · exact .done _
    refine asks_writeAside (fun c => .aside) (fun temp own => ?_) fun e => .done _
    refine .ask (.rename own) fun r => ?_
    split
    · exact .done _
    · exact (asks_removeQuietly (.aside (.remove own))).bind fun _ => .done _

end MemberAuth.Store
