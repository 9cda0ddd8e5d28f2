import MemberAuth.Proofs.Auth.Freshness
import MemberAuth.Proofs.Service.FileSteps

/-!
# Requests that are abandoned

Decisions, registrations and password changes side by side, one file step at a time, where a change
or a registration may be abandoned whenever it is asleep. A log keeps the renames and the evictions.
A request that replaces a document by a rename evicts its member right after that, unless it was
abandoned at that rename; and where every replacement has its eviction, the cached credentials rest
on the hash that is stored.
-/
namespace MemberAuth.Abandonment

open Service Store

/-- How far a request has got. -/
inductive Task
  /-- A decision that has not looked into the cache yet. -/
  | deciding (loginId password : String)
  /-- A decision that asks the stored members, with the epoch taken before. -/
  | verifying (loginId password : String) (epoch : Nat)
    (rest : ActScript (Except VerifyFailure Identity))
  | decided (loginId password : String) (result : Except AuthFailure Identity)
  /-- A password change or a registration. -/
  | serving (rest : ActScript (Except Failure Member))
  /-- One that nobody wakes any more, with what it would have gone on to do. -/
  | abandoned (rest : ActScript (Except Failure Member))

/-- What is logged, with the place of the request that moved a file. -/
inductive Event
  | renamed (target : Path) (place : Nat)
  | evicted (loginId : String)
  deriving DecidableEq

def Act.event (place : Nat) : (act : Act) → act.Reply → Option Event
  | .file (.rename _ target), .ok () => some (.renamed target place)
  | .evict loginId, _ => some (.evicted loginId)
  | _, _ => none

/-- What may become of a request in one step, and of the application. -/
inductive Turn (a : App) (place : Nat) : Task → App → Task → Option Event → Prop
  | decide {loginId password : String} {gate : Gate} {result : Except AuthFailure Identity}
    (opened : a.gate.openRequest a.now loginId password = (gate, .decided result)) :
    Turn a place (.deciding loginId password) { a with gate } (.decided loginId password result)
      none
  | ask {loginId password : String} {gate : Gate} {epoch : Nat}
    (opened : a.gate.openRequest a.now loginId password = (gate, .pending epoch)) :
    Turn a place (.deciding loginId password) { a with gate }
      (.verifying loginId password epoch (spelledOut (verify a.rules loginId password))) none
  | verify (loginId password : String) (epoch : Nat) (act : Act)
    (next : act.Reply → ActScript (Except VerifyFailure Identity)) :
    Turn a place (.verifying loginId password epoch (.call act next)) (act.carryOut a).1
      (.verifying loginId password epoch (next (act.carryOut a).2))
      (act.event place (act.carryOut a).2)
  | answer (loginId password : String) (epoch : Nat) (verdict : Except VerifyFailure Identity) :
    Turn a place (.verifying loginId password epoch (.done verdict))
      { a with gate := (a.gate.closeRequest a.now loginId password epoch verdict).1 }
      (.decided loginId password (a.gate.closeRequest a.now loginId password epoch verdict).2) none
  | serve (act : Act) (next : act.Reply → ActScript (Except Failure Member)) :
    Turn a place (.serving (.call act next)) (act.carryOut a).1
      (.serving (next (act.carryOut a).2)) (act.event place (act.carryOut a).2)
  | abandon (act : Act) (next : act.Reply → ActScript (Except Failure Member))
    (awaited : act.isAwaited = true) :
    Turn a place (.serving (.call act next)) a (.abandoned (.call act next)) none
  /-- What was handed over is carried out. -/
  | settle (act : Act) (next : act.Reply → ActScript (Except Failure Member))
    (handed : act.isHandedOver = true) :
    Turn a place (.abandoned (.call act next)) (act.carryOut a).1
      (.abandoned (next (act.carryOut a).2)) (act.event place (act.carryOut a).2)

inductive Arrives (rules : Rules) : Task → Prop
  | authenticate (loginId password : String) : Arrives rules (.deciding loginId password)
  | change (loginId current new : String) :
    Arrives rules (.serving (spelledOut (changePassword rules loginId current new)))
  | register (r : Registration) : Arrives rules (.serving (spelledOut (Service.register rules r)))

structure World where
  app : App
  tasks : List Task
  /-- The latest event first. -/
  log : List Event

namespace World

inductive Step : World → World → Prop
  | arrive (w : World) (t : Task) (arrives : Arrives w.app.rules t) :
    Step w { w with tasks := w.tasks ++ [t] }
  | turn {a a' : App} (before after : List Task) {t t' : Task} {event : Option Event}
    (log : List Event) (turn : Turn a before.length t a' t' event) :
    Step ⟨a, before ++ t :: after, log⟩ ⟨a', before ++ t' :: after, event.toList ++ log⟩
  | advance (w : World) (duration : Nat) : Step w { w with app := w.app.advance duration }
  | purge (w : World) : Step w { w with app := w.app.purge.1 }

/-- Any number of steps in any order. -/
def Reaches : World → World → Prop :=
  Relation.ReflTransGen Step

end World

/-- The request at a place has replaced the document of a member, and the member has not been
evicted since. -/
inductive Outstanding (loginId : String) (place : Nat) : List Event → Prop
  | here (earlier : List Event) :
    Outstanding loginId place (.renamed (documentPath loginId) place :: earlier)
  | still {e : Event} {earlier : List Event} (apart : e ≠ .evicted loginId)
    (h : Outstanding loginId place earlier) : Outstanding loginId place (e :: earlier)

theorem outstanding_iff {loginId : String} {place : Nat} {log : List Event} :
    Outstanding loginId place log ↔ ∃ later earlier,
      log = later ++ .renamed (documentPath loginId) place :: earlier ∧
        .evicted loginId ∉ later := by
  constructor
  · intro h
    induction h with
    | here earlier => exact ⟨[], earlier, rfl, List.not_mem_nil⟩
    | @still e _ apart _ ih =>
      obtain ⟨later, earlier, rfl, none⟩ := ih
      exact ⟨e :: later, earlier, rfl, List.not_mem_cons_of_ne_of_not_mem apart.symm none⟩
  · rintro ⟨later, earlier, rfl, none⟩
    induction later with
    | nil => exact .here earlier
    | cons e later ih =>
      obtain ⟨apart, rest⟩ := List.ne_and_not_mem_of_not_mem_cons none
      exact .still apart.symm (ih rest)

/-- The member was evicted after every replacement of its document. -/
def Settled (log : List Event) (loginId : String) : Prop :=
  ∀ place, ¬ Outstanding loginId place log

section Log

variable {log : List Event} {loginId : String}

theorem settled_of_cons {e : Event} (apart : e ≠ .evicted loginId)
    (h : Settled (e :: log) loginId) : Settled log loginId :=
  fun place out => h place (.still apart out)

theorem event_cases (place : Nat) (act : Act) (reply : act.Reply) :
    act.event place reply = none ∨
      (∃ key, act = .evict key ∧ act.event place reply = some (.evicted key)) ∨
      ∃ source target, act = .file (.rename source target) ∧
        act.event place reply = some (.renamed target place) := by
  cases act with
  | salt => exact Or.inl rfl
  | wake => exact Or.inl rfl
  | count k => exact Or.inl rfl
  | evict key => exact Or.inr (Or.inl ⟨key, rfl, rfl⟩)
  | file c =>
    cases c with
    | rename source target =>
      cases reply with
      | ok u => exact Or.inr (Or.inr ⟨source, target, rfl, rfl⟩)
      | error e => exact Or.inl rfl
    | freshPath => exact Or.inl rfl
    | write p text => exact Or.inl rfl
    | link source target => exact Or.inl rfl
    | remove p => exact Or.inl rfl
    | read p => exact Or.inl rfl
    | takeId => exact Or.inl rfl

/-- Only an eviction of the member settles it. -/
theorem settled_of_event {place : Nat} {act : Act} {reply : act.Reply}
    (stays : act ≠ .evict loginId)
    (h : Settled ((act.event place reply).toList ++ log) loginId) : Settled log loginId := by
  rcases event_cases place act reply with none | ⟨key, rfl, evicted⟩ | ⟨_, _, _, renamed⟩
  · rwa [none] at h
  · rw [evicted] at h
    refine settled_of_cons (fun same => stays ?_) h
    rw [Event.evicted.inj same]
  · rw [renamed] at h
    exact settled_of_cons (by simp) h

end Log

/-- The request would evict the member next. -/
def Task.Owes (loginId : String) : Task → Prop
  | .serving rest => EvictionDue loginId rest
  | .abandoned rest => EvictionDue loginId rest
  | _ => False

/-- The entry with this password in it was made by a decision in this world. -/
def Made (w : World) (password loginId : String) (slot : Slot) : Prop :=
  .decided loginId password (.ok slot.credential.identity) ∈ w.tasks ∧
    slot.credential.digest = passwordDigest password

/-- A decision is known by its password. It is right if the stored hash accepts the password. -/
def World.view (w : World) : View String where
  cache := w.app.gate.cache
  settled := Settled w.log
  made := Made w
  grounds password loginId who := w.app.Vouches loginId password who

/-- A resident entry was made by a decision in this world, and the stored hash accepts its password.
-/
def Backed (w : World) (loginId : String) (slot : Slot) : Prop :=
  w.view.Backed loginId slot

/-- Where a verification stands, and what holds of its verdict. -/
inductive Asking (rules : Rules) (loginId password : String)
    (holds : Except VerifyFailure Identity → Prop) :
    ActScript (Except VerifyFailure Identity) → Prop
  | reading (looks : ∀ s : Shelf, s.find loginId = lookedUp (s.disk.read (documentPath loginId))) :
    Asking rules loginId password holds (.call (.file (.read (documentPath loginId))) fun r =>
      .call .wake fun _ => .done (verdictOn rules password (lookedUp r)))
  | asleep {verdict : Except VerifyFailure Identity} (h : holds verdict) :
    Asking rules loginId password holds (.call .wake fun _ => .done verdict)
  | told {verdict : Except VerifyFailure Identity} (h : holds verdict) :
    Asking rules loginId password holds (.done verdict)

/-- What holds of a request at each point. -/
def Sound (w : World) : Task → Prop
  | .verifying loginId password epoch rest =>
    epoch ≤ w.app.gate.cache.epoch ∧
      Asking w.app.rules loginId password (w.view.Holds password loginId epoch) rest
  | .serving rest => ∀ loginId, Invalidates loginId rest
  | .abandoned rest => ∀ loginId, Invalidates loginId rest
  | _ => True

structure Fresh (w : World) : Prop where
  tasks : ∀ t ∈ w.tasks, Sound w t
  founded : w.view.Founded
  owed : ∀ loginId place, Outstanding loginId place w.log →
    ∃ t, w.tasks[place]? = some t ∧ t.Owes loginId

section Advance

variable {w w' : World}

theorem Sound.advance {t : Task} (h : Sound w t) (rules : w'.app.rules = w.app.rules)
    (adv : w.view.Advances w'.view) : Sound w' t := by
  cases t with
  | deciding loginId password => trivial
  | decided loginId password result => trivial
  | serving rest => exact h
  | abandoned rest => exact h
  | verifying loginId password epoch rest =>
    obtain ⟨behind, asking⟩ := h
    refine ⟨Nat.le_trans behind adv.epoch, ?_⟩
    cases asking with
    | reading looks =>
      rw [← rules]
      exact .reading looks
    | asleep holds => exact .asleep (holds.advance adv behind)
    | told holds => exact .told (holds.advance adv behind)

theorem Fresh.advance (fresh : Fresh w) (rules : w'.app.rules = w.app.rules)
    (adv : w.view.Advances w'.view) (tasks : ∀ t ∈ w'.tasks, t ∈ w.tasks ∨ Sound w' t)
    (entries : ∀ (loginId : String) (slot : Slot),
      w'.app.gate.cache.slots[loginId]? = some slot → Settled w'.log loginId →
      (w.app.gate.cache.slots[loginId]? = some slot ∧ Settled w.log loginId) ∨
        Backed w' loginId slot)
    (owed : ∀ loginId place, Outstanding loginId place w'.log →
      ∃ t, w'.tasks[place]? = some t ∧ t.Owes loginId) : Fresh w' := by
  refine ⟨fun t ht => ?_, fresh.founded.advance adv entries, owed⟩
  rcases tasks t ht with old | sound
  · exact (fresh.tasks t old).advance rules adv
  · exact sound

end Advance

section Turn

variable {a a' : App} {before after : List Task} {t t' : Task} {log : List Event}
  {event : Option Event}

theorem Fresh.present (fresh : Fresh ⟨a, before ++ t :: after, log⟩) :
    Sound ⟨a, before ++ t :: after, log⟩ t :=
  fresh.tasks t (List.mem_append_right before List.mem_cons_self)

/-- What a request has to respect when it goes on from `t` to `t'`. -/
theorem Fresh.turn (fresh : Fresh ⟨a, before ++ t :: after, log⟩)
    (undecided : ∀ loginId password result, t ≠ .decided loginId password result)
    (rules : a'.rules = a.rules) (epoch : a.gate.cache.epoch ≤ a'.gate.cache.epoch)
    (settled : ∀ loginId, Settled (event.toList ++ log) loginId →
      Settled log loginId ∨ a.gate.cache.epoch < a'.gate.cache.epoch)
    (stored : ∀ loginId m, Settled (event.toList ++ log) loginId →
      a.shelf.find loginId = .ok (some m) → a'.shelf.find loginId = .ok (some m))
    (sound : Sound ⟨a', before ++ t' :: after, event.toList ++ log⟩ t')
    (entries : ∀ (loginId : String) (slot : Slot), a'.gate.cache.slots[loginId]? = some slot →
      Settled (event.toList ++ log) loginId →
      (a.gate.cache.slots[loginId]? = some slot ∧ Settled log loginId) ∨
        Backed ⟨a', before ++ t' :: after, event.toList ++ log⟩ loginId slot)
    (keeps : ∀ loginId, t.Owes loginId → t'.Owes loginId ∨ event = some (.evicted loginId))
    (takes : ∀ loginId place, event = some (.renamed (documentPath loginId) place) →
      place = before.length ∧ t'.Owes loginId) :
    Fresh ⟨a', before ++ t' :: after, event.toList ++ log⟩ := by
  have adv : (World.view ⟨a, before ++ t :: after, log⟩).Advances
      (World.view ⟨a', before ++ t' :: after, event.toList ++ log⟩) := by
    refine ⟨epoch, settled, ?made, ?grounds⟩
    case made =>
      rintro password loginId slot ⟨made, digest⟩
      rcases mem_of_mem_turn (t := t') made with made | same
      · exact ⟨made, digest⟩
      · exact absurd same.symm (undecided loginId password _)
    case grounds =>
      rintro password loginId who settled ⟨m, held, accepts, own⟩
      exact ⟨m, stored loginId m settled held, rules ▸ accepts, own⟩
  refine fresh.advance rules adv (fun u hu => ?_) entries fun loginId place out => ?_
  · rcases mem_of_mem_turn (t := t) hu with old | rfl
    · exact Or.inl old
    · exact Or.inr sound
  -- What was owed before is owed still, unless this turn is the eviction.
  have kept (old : Outstanding loginId place log) (stays : event ≠ some (.evicted loginId)) :
      ∃ u, (before ++ t' :: after)[place]? = some u ∧ u.Owes loginId := by
    obtain ⟨u, there, owes⟩ := fresh.owed loginId place old
    rcases getElem?_of_turn t' there with ⟨rfl, rfl⟩ | there
    · exact ⟨t', by simp, (keeps loginId owes).resolve_right stays⟩
    · exact ⟨u, there, owes⟩
  cases event with
  | none => exact kept out (by simp)
  | some e =>
    cases out with
    | here =>
      obtain ⟨rfl, owes⟩ := takes loginId place rfl
      exact ⟨t', by simp, owes⟩
    | still apart old => exact kept old (by simpa using apart)

/-- A turn that is not logged and touches nothing but the gate, in an epoch that goes on. -/
theorem Fresh.turn_gate {gate : Gate} (fresh : Fresh ⟨a, before ++ t :: after, log⟩)
    (undecided : ∀ loginId password result, t ≠ .decided loginId password result)
    (epoch : gate.cache.epoch = a.gate.cache.epoch)
    (sound : Sound ⟨{ a with gate }, before ++ t' :: after, log⟩ t')
    (entries : ∀ (loginId : String) (slot : Slot), gate.cache.slots[loginId]? = some slot →
      Settled log loginId → a.gate.cache.slots[loginId]? = some slot ∨
        Backed ⟨{ a with gate }, before ++ t' :: after, log⟩ loginId slot)
    (keeps : ∀ loginId, t.Owes loginId → t'.Owes loginId) :
    Fresh ⟨{ a with gate }, before ++ t' :: after, log⟩ := by
  have unlogged {loginId : String} {place : Nat} :
      (none : Option Event) ≠ some (.renamed (documentPath loginId) place) := by simp
  change Fresh ⟨{ a with gate }, _, (none : Option Event).toList ++ log⟩
  refine fresh.turn undecided rfl (Nat.le_of_eq epoch.symm) (fun _ settled => Or.inl settled)
    (fun _ _ _ held => held) sound (fun loginId slot resident settled => ?_)
    (fun loginId owes => Or.inl (keeps loginId owes)) fun _ _ logged => absurd logged unlogged
  exact (entries loginId slot resident settled).imp_left fun old => ⟨old, settled⟩

/-- The first step of a decision only drops entries. -/
theorem Fresh.opened {loginId password : String} {gate : Gate} {opening : Opening}
    (opened : a.gate.openRequest a.now loginId password = (gate, opening))
    (sound : Sound ⟨{ a with gate }, before ++ t' :: after, log⟩ t')
    (fresh : Fresh ⟨a, before ++ .deciding loginId password :: after, log⟩) :
    Fresh ⟨{ a with gate }, before ++ t' :: after, log⟩ := by
  have pruned := a.gate.prunes_openRequest a.now loginId password
  rw [opened] at pruned
  exact fresh.turn_gate (by simp) pruned.epoch sound
    (fun _ _ resident _ => Or.inl (pruned.entries resident)) fun _ owes => owes.elim

/-- A verification reads the document, and later it is woken. -/
theorem Fresh.verified {loginId password : String} {epoch : Nat} {act : Act}
    {next : act.Reply → ActScript (Except VerifyFailure Identity)}
    (fresh : Fresh ⟨a, before ++ .verifying loginId password epoch (.call act next) :: after, log⟩) :
    Fresh ⟨(act.carryOut a).1,
      before ++ .verifying loginId password epoch (next (act.carryOut a).2) :: after,
      (act.event before.length (act.carryOut a).2).toList ++ log⟩ := by
  obtain ⟨behind, asking⟩ := fresh.present
  have goes {rest : ActScript (Except VerifyFailure Identity)}
      (told : Sound ⟨a, before ++ .verifying loginId password epoch rest :: after, log⟩
        (.verifying loginId password epoch rest)) :
      Fresh ⟨a, before ++ .verifying loginId password epoch rest :: after, log⟩ :=
    fresh.turn_gate (by simp) rfl told (fun _ _ resident _ => Or.inl resident)
      fun _ owes => owes.elim
  dsimp only at asking
  cases asking with
  | reading looks =>
    refine goes ⟨behind, .asleep fun who good _ _ => ?_⟩
    obtain ⟨m, found, accepts, own⟩ := verdictOn_eq_ok.mp good
    exact ⟨m, (looks a.shelf).trans found, accepts, own⟩
  | asleep holds => exact goes ⟨behind, .told holds⟩

/-- A decision writes what it was told, in the epoch of its snapshot only. -/
theorem Fresh.closed {loginId password : String} {epoch : Nat}
    {verdict : Except VerifyFailure Identity}
    (fresh : Fresh ⟨a, before ++ .verifying loginId password epoch (.done verdict) :: after, log⟩) :
    Fresh ⟨{ a with gate := (a.gate.closeRequest a.now loginId password epoch verdict).1 },
      before ++ .decided loginId password
        (a.gate.closeRequest a.now loginId password epoch verdict).2 :: after, log⟩ := by
  obtain ⟨_, asking⟩ := fresh.present
  cases asking with
  | told holds =>
    refine fresh.turn_gate (by simp)
      (a.gate.epoch_closeRequest a.now epoch loginId password verdict) trivial
      (fun key slot resident settled => ?_) fun _ owes => owes.elim
    rcases Gate.closeRequest_entry resident with old | ⟨who, rfl, rfl, present, rfl⟩
    · exact Or.inl old
    · exact Or.inr ⟨password, ⟨List.mem_append_right before List.mem_cons_self, rfl⟩,
        holds who rfl present settled⟩

/-- Until the eviction that is due is carried out, it stays due. -/
theorem evictionDue_next {α : Type} {loginId : String} {act : Act} {next : act.Reply → ActScript α}
    (due : EvictionDue loginId (.call act next)) (place : Nat) (reply : act.Reply) :
    EvictionDue loginId (next reply) ∨ act.event place reply = some (.evicted loginId) := by
  cases due with
  | evict _ => exact Or.inr rfl
  | wake _ due => exact Or.inl due

/-- Whoever replaces a document has to evict the member next. -/
theorem evictionDue_of_renamed {α : Type} {loginId : String} {act : Act}
    {next : act.Reply → ActScript α} (h : Invalidates loginId (.call act next)) {here place : Nat}
    {reply : act.Reply}
    (renamed : act.event here reply = some (.renamed (documentPath loginId) place)) :
    place = here ∧ EvictionDue loginId (next reply) := by
  rcases event_cases here act reply with none | ⟨key, rfl, evicted⟩ | ⟨source, target, rfl, moved⟩
  · rw [none] at renamed
    cases renamed
  · rw [evicted] at renamed
    cases renamed
  rw [moved, Option.some.injEq, Event.renamed.injEq] at renamed
  obtain ⟨rfl, rfl⟩ := renamed
  refine ⟨rfl, ?_⟩
  cases h with
  | call _ _ spares _ => exact absurd (by simp [Act.replaces, FileCall.replaces]) spares
  | rename _ _ due _ =>
    cases reply with
    | ok u => exact due
    | error e => cases moved

/-- A stored member stays as it is until its document is replaced. -/
theorem stored_or_renamed {α : Type} {loginId : String} {m : Member} {act : Act}
    {next : act.Reply → ActScript α} (h : Invalidates loginId (.call act next)) (place : Nat)
    (stored : a.shelf.find loginId = .ok (some m)) :
    (act.carryOut a).1.shelf.find loginId = .ok (some m) ∨
      act.event place (act.carryOut a).2 = some (.renamed (documentPath loginId) place) := by
  cases h with
  | call _ _ spares _ => exact Or.inl (Act.find_of_carryOut stored spares)
  | rename source _ _ _ =>
    cases reply : ((Act.file (.rename source (documentPath loginId))).carryOut a).2 with
    | error e => exact Or.inl (by rwa [Act.carryOut_rename_error reply])
    | ok u => exact Or.inr rfl

/-- One act of a change or a registration, abandoned or not. -/
theorem Fresh.acted {act : Act} {next : act.Reply → ActScript (Except Failure Member)}
    (task : ActScript (Except Failure Member) → Task)
    (serves : task = .serving ∨ task = .abandoned)
    (fresh : Fresh ⟨a, before ++ task (.call act next) :: after, log⟩) :
    Fresh ⟨(act.carryOut a).1, before ++ task (next (act.carryOut a).2) :: after,
      (act.event before.length (act.carryOut a).2).toList ++ log⟩ := by
  have owes loginId rest : (task rest).Owes loginId ↔ EvictionDue loginId rest := by
    rcases serves with rfl | rfl <;> exact Iff.rfl
  have sound w rest : Sound w (task rest) ↔ ∀ loginId, Invalidates loginId rest := by
    rcases serves with rfl | rfl <;> exact Iff.rfl
  have undecided loginId password result rest : task rest ≠ .decided loginId password result := by
    rcases serves with rfl | rfl <;> simp
  have inval := (sound _ _).mp fresh.present
  refine fresh.turn (fun _ _ _ => undecided _ _ _ _) (act.carryOut_rules a) ?epoch
    (fun loginId settled => ?settled) (fun loginId m settled held => ?stored)
    ((sound _ _).mpr fun loginId => invalidates_next (inval loginId) a)
    (fun loginId slot resident settled => Or.inl ?entries)
    (fun loginId due => ?keeps) (fun loginId place renamed => ?takes)
  case epoch =>
    rcases act.cache_cases a with ⟨_, same⟩ | ⟨key, _, evicted⟩
    · exact Nat.le_of_eq (congrArg Cache.epoch same.symm)
    · rw [evicted, Cache.epoch_evict]
      omega
  case settled =>
    rcases act.cache_cases a with ⟨stays, _⟩ | ⟨key, _, evicted⟩
    · exact Or.inl (settled_of_event (stays loginId) settled)
    · rw [evicted, Cache.epoch_evict]
      exact Or.inr (Nat.lt_succ_self _)
  case stored =>
    rcases stored_or_renamed (inval loginId) before.length held with still | renamed
    · exact still
    · rw [renamed] at settled
      exact absurd (.here log) (settled before.length)
  case entries =>
    rcases act.cache_cases a with ⟨stays, same⟩ | ⟨key, same, evicted⟩
    · rw [same] at resident
      exact ⟨resident, settled_of_event (stays loginId) settled⟩
    · rw [evicted] at resident
      obtain ⟨apart, old⟩ := Cache.evict_entry resident
      exact ⟨old, settled_of_event (fun own => apart (Act.evict.inj (own.symm.trans same))) settled⟩
  case keeps =>
    rw [owes] at due ⊢
    exact evictionDue_next due _ _
  case takes =>
    rw [owes]
    exact evictionDue_of_renamed (inval loginId) renamed

end Turn

theorem fresh_turn {a a' : App} {before after : List Task} {t t' : Task} {event : Option Event}
    {log : List Event} (fresh : Fresh ⟨a, before ++ t :: after, log⟩)
    (turn : Turn a before.length t a' t' event) :
    Fresh ⟨a', before ++ t' :: after, event.toList ++ log⟩ := by
  cases turn with
  | decide opened => exact fresh.opened opened trivial
  | @ask loginId password gate epoch opened =>
    have pruned := a.gate.prunes_openRequest a.now loginId password
    rw [opened] at pruned
    have snapshot : epoch ≤ gate.cache.epoch := by
      rw [a.gate.openRequest_epoch opened]
      exact Nat.le_of_eq pruned.epoch.symm
    refine fresh.opened opened ⟨snapshot, ?_⟩
    rcases spelledOut_verify_cases a.rules loginId password with none | ⟨asks, looks⟩
    · rw [none]
      exact .told fun who good => by cases good
    · rw [asks]
      exact .reading looks
  | verify loginId password epoch act next => exact fresh.verified
  | answer loginId password epoch verdict => exact fresh.closed
  | serve act next => exact fresh.acted .serving (Or.inl rfl)
  | abandon act next awaited =>
    exact fresh.turn_gate (by simp) rfl fresh.present (fun _ _ resident _ => Or.inl resident)
      fun _ owes => owes
  | settle act next handed => exact fresh.acted .abandoned (Or.inr rfl)

/-- A request that has just arrived changes nothing for the others. -/
theorem Fresh.arrive {w : World} {t : Task} (fresh : Fresh w) (arrives : Arrives w.app.rules t) :
    Fresh { w with tasks := w.tasks ++ [t] } := by
  have adv : w.view.Advances (World.view { w with tasks := w.tasks ++ [t] }) :=
    ⟨Nat.le_refl _, fun _ settled => Or.inl settled,
      fun _ _ _ made => ⟨List.mem_append_left _ made.1, made.2⟩, fun _ _ _ _ held => held⟩
  refine fresh.advance rfl adv (fun u hu => ?_)
    (fun _ _ resident settled => Or.inl ⟨resident, settled⟩) fun loginId place out => ?_
  · rcases List.mem_append.mp hu with old | new
    · exact Or.inl old
    obtain rfl := List.mem_singleton.mp new
    refine Or.inr ?_
    cases arrives with
    | authenticate loginId password => trivial
    | change subject current chosen =>
      exact fun loginId => invalidates_changePassword w.app.rules loginId subject current chosen
    | register r => exact fun loginId => invalidates_register w.app.rules loginId r
  · obtain ⟨u, there, owes⟩ := fresh.owed loginId place out
    have bound := (List.getElem?_eq_some_iff.mp there).1
    exact ⟨u, (List.getElem?_append_left bound).trans there, owes⟩

theorem fresh_step {w w' : World} (fresh : Fresh w) (step : w.Step w') : Fresh w' := by
  cases step with
  | arrive _ t arrives => exact fresh.arrive arrives
  | turn before after log turn => exact fresh_turn fresh turn
  | advance _ duration =>
    exact fresh.advance rfl ⟨Nat.le_refl _, fun _ settled => Or.inl settled,
      fun _ _ _ made => made, fun _ _ _ _ held => held⟩ (fun _ h => Or.inl h)
      (fun _ _ resident settled => Or.inl ⟨resident, settled⟩) fresh.owed
  | purge =>
    have pruned := w.app.gate.cache.prunes_purge w.app.now
    rw [← Gate.cache_purge] at pruned
    exact fresh.advance rfl ⟨Nat.le_of_eq pruned.epoch.symm, fun _ settled => Or.inl settled,
      fun _ _ _ made => made, fun _ _ _ _ held => held⟩ (fun _ h => Or.inl h)
      (fun _ _ resident settled => Or.inl ⟨pruned.entries resident, settled⟩) fresh.owed

/-- A stored member stays as it is through a step, unless the step is logged as a rename onto its
document. -/
theorem stored_of_step {w w' : World} (fresh : Fresh w) (step : w.Step w') {loginId : String}
    {m : Member} (stored : w.app.shelf.find loginId = .ok (some m)) :
    w'.app.shelf.find loginId = .ok (some m) ∨
      ∃ place, w'.log = .renamed (documentPath loginId) place :: w.log := by
  cases step with
  | arrive _ t arrives => exact Or.inl stored
  | advance _ duration => exact Or.inl stored
  | purge => exact Or.inl stored
  | @turn a _ before after _ _ _ log turn =>
    have moves {α : Type} {act : Act} {next : act.Reply → ActScript α}
        (inval : Invalidates loginId (.call act next)) :
        (act.carryOut a).1.shelf.find loginId = .ok (some m) ∨ ∃ place,
          (act.event before.length (act.carryOut a).2).toList ++ log =
            .renamed (documentPath loginId) place :: log := by
      rcases stored_or_renamed inval before.length stored with still | renamed
      · exact Or.inl still
      · exact Or.inr ⟨before.length, by rw [renamed]; rfl⟩
    cases turn with
    | decide opened => exact Or.inl stored
    | ask opened => exact Or.inl stored
    | answer subject password epoch verdict => exact Or.inl stored
    | abandon act next awaited => exact Or.inl stored
    | serve act next =>
      exact moves (fresh.present loginId)
    | settle act next handed =>
      exact moves (fresh.present loginId)
    | verify subject password epoch act next =>
      obtain ⟨_, asking⟩ := fresh.present
      dsimp only at asking
      cases asking with
      | reading looks => exact Or.inl stored
      | asleep holds => exact Or.inl stored

theorem log_of_step {w w' : World} (step : w.Step w') : w.log <:+ w'.log := by
  cases step with
  | arrive _ t arrives => exact List.suffix_refl _
  | turn before after log turn => exact List.suffix_append _ _
  | advance _ duration => exact List.suffix_refl _
  | purge => exact List.suffix_refl _

theorem fresh_of_reaches {a : App} {w : World} (empty : a.gate.cache.slots = ∅)
    (run : World.Reaches ⟨a, [], []⟩ w) : Fresh w := by
  induction run with
  | refl =>
    refine ⟨by simp, fun loginId slot resident _ => ?_, fun loginId place out => by cases out⟩
    rw [World.view, empty, Std.ExtTreeMap.getElem?_empty] at resident
    cases resident
  | tail _ step ih => exact fresh_step ih step

/-- What is stored about a member changes only by a rename onto its document. -/
theorem stored_of_reaches {v w : World} (fresh : Fresh v) (run : v.Reaches w) {loginId : String}
    {m : Member} (stored : v.app.shelf.find loginId = .ok (some m)) :
    w.app.shelf.find loginId = .ok (some m) ∨ ∃ later place earlier,
      w.log = later ++ .renamed (documentPath loginId) place :: earlier ∧ v.log <:+ earlier := by
  suffices h : Fresh w ∧ v.log <:+ w.log ∧ (w.app.shelf.find loginId = .ok (some m) ∨
      ∃ later place earlier,
        w.log = later ++ .renamed (documentPath loginId) place :: earlier ∧ v.log <:+ earlier) from
    h.2.2
  induction run with
  | refl => exact ⟨fresh, List.suffix_refl _, Or.inl stored⟩
  | @tail u w _ step ih =>
    obtain ⟨freshly, longer, still | ⟨later, place, earlier, renamed, since⟩⟩ := ih
    · refine ⟨fresh_step freshly step, longer.trans (log_of_step step), ?_⟩
      rcases stored_of_step freshly step still with kept | ⟨place, logged⟩
      · exact Or.inl kept
      · exact Or.inr ⟨[], place, u.log, logged, longer⟩
    · obtain ⟨events, grown⟩ := log_of_step step
      refine ⟨fresh_step freshly step, longer.trans (log_of_step step),
        Or.inr ⟨events ++ later, place, earlier, ?_, since⟩⟩
      rw [← grown, renamed, List.append_assoc]

end MemberAuth.Abandonment
