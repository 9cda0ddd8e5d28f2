import MemberAuth.Proofs.Service.Changes

/-!
# Requests in file steps

The calls of a request to the store, spelled out as the file steps that they are made of. A file
step is handed over, and the request sleeps until it is woken with the reply; so is the making of a
hash. Asleep a request stands before a step that is not yet carried out, or before it is woken. Only
there can it be abandoned, and what it has handed over is carried out all the same. While passwords
are being checked nothing changes, so a request abandoned then stands as one that was not woken from
the look-up.
-/
namespace MemberAuth

namespace Store

/-- Whether a request sleeps until the step is carried out. Naming a temporary file and taking an id
need no waiting. -/
def FileCall.waits : FileCall → Bool
  | .freshPath => false
  | .takeId => false
  | _ => true

end Store

namespace Abandonment

open Service Store

inductive Act
  | file (c : FileCall)
  /-- A hash is made, with a salt. -/
  | salt
  /-- The request goes on with the reply to what it has handed over. -/
  | wake
  | evict (loginId : String)
  | count (k : Counter)
  deriving DecidableEq

abbrev Act.Reply : Act → Type
  | file c => c.Reply
  | salt => Hash.Salt
  | wake => Unit
  | evict _ => Bool
  | count _ => Unit

abbrev ActScript := Script Act Act.Reply

namespace Act

def carryOut : (act : Act) → App → App × act.Reply
  | .file c, a => a.onStore (.ask c)
  | .salt, a => a.perform .salt
  | .wake, a => (a, ())
  | .evict loginId, a => a.perform (.evict loginId)
  | .count k, a => a.perform (.count k)

/-- Whether the act is carried out apart from the request. -/
def isHandedOver : Act → Bool
  | .file c => c.waits
  | .salt => true
  | _ => false

/-- Whether the request sleeps before the act. -/
def isAwaited : Act → Bool
  | .wake => true
  | act => act.isHandedOver

/-- The paths at which an act may change what is there. -/
def replaces : Act → List Path
  | .file c => c.replaces
  | _ => []

end Act

namespace Act

variable (act : Act) (a : App)

theorem carryOut_rules : (act.carryOut a).1.rules = a.rules := by
  cases act with
  | file c => rfl
  | salt => rfl
  | wake => rfl
  | evict loginId => exact a.perform_rules (.evict loginId)
  | count k => rfl

/-- Only evictions touch the cache. -/
theorem cache_cases :
    ((∀ loginId, act ≠ .evict loginId) ∧ (act.carryOut a).1.gate.cache = a.gate.cache) ∨
      ∃ loginId, act = .evict loginId ∧
        (act.carryOut a).1.gate.cache = (a.gate.cache.evict loginId).1 := by
  cases act with
  | file c => exact Or.inl ⟨by simp, rfl⟩
  | salt => exact Or.inl ⟨by simp, rfl⟩
  | wake => exact Or.inl ⟨by simp, rfl⟩
  | evict loginId => exact Or.inr ⟨loginId, rfl, a.perform_evict_cache loginId⟩
  | count k => exact Or.inl ⟨by simp, a.perform_cache (c := .count k) (by simp)⟩

/-- A stored member stays as it is as long as its document is spared. -/
theorem find_of_carryOut {act : Act} {a : App} {loginId : String} {m : Member}
    (stored : a.shelf.find loginId = .ok (some m))
    (spares : documentPath loginId ∉ act.replaces) :
    (act.carryOut a).1.shelf.find loginId = .ok (some m) := by
  cases act with
  | file c => exact Shelf.find_of_spares (Spares.ask (c := c) spares) stored
  | salt => exact stored
  | wake => exact stored
  | evict key => exact a.find_of_perform (c := .evict key) stored (by simp)
  | count k => exact stored

/-- A rename that fails changes nothing. -/
theorem carryOut_rename_error {a : App} {source target : Path} {e : FileError}
    (failed : ((Act.file (.rename source target)).carryOut a).2 = .error e) :
    ((Act.file (.rename source target)).carryOut a).1 = a := by
  change (a.shelf.after (a.shelf.disk.rename source target)).2 = .error e at failed
  change { a with shelf := (a.shelf.after (a.shelf.disk.rename source target)).1 } = a
  cases renamed : a.shelf.disk.rename source target with
  | ok disk =>
    rw [renamed] at failed
    cases failed
  | error e => rfl

end Act

section Spelling

variable {α β : Type}

/-- One file step, after which the request is woken if it sleeps. -/
def inStep (c : FileCall) (next : c.Reply → ActScript α) : ActScript α :=
  .call (.file c) fun r => if c.waits then .call .wake fun _ => next r else next r

def inSteps : FileScript α → ActScript α
  | .done a => .done a
  | .call c next => inStep c fun r => inSteps (next r)

def ofCall : (c : Call) → ActScript c.Reply
  | .find loginId => inSteps (find loginId)
  | .insert m => inSteps (insert m)
  | .update loginId passwordHash => inSteps (update loginId passwordHash)
  | .salt => .call .salt fun salt => .call .wake fun _ => .done salt
  | .evict loginId => .ask (Act.evict loginId)
  | .count k => .ask (Act.count k)

/-- A script of service calls with each store call as its file steps. -/
def spelledOut : ServiceScript α → ActScript α
  | .done a => .done a
  | .call c next => ofCall c >>= fun r => spelledOut (next r)

theorem inStep_bind (c : FileCall) (next : c.Reply → ActScript α) (f : α → ActScript β) :
    inStep c next >>= f = inStep c fun r => next r >>= f := by
  refine congrArg (Script.call _) (funext fun r => ?_)
  cases c.waits with
  | true => rfl
  | false => rfl

theorem inSteps_bind {γ : Type} (script : FileScript α) (g : α → FileScript β)
    (f : β → ActScript γ) :
    inSteps (script >>= g) >>= f = inSteps script >>= fun a => inSteps (g a) >>= f := by
  induction script with
  | done a => rfl
  | call c next ih =>
    rw [inSteps, inStep_bind]
    change inStep c (fun r => inSteps (next r >>= g)) >>= f = _
    rw [inStep_bind]
    exact congrArg (inStep c) (funext ih)

/-- Carried out in one go, the file steps do what the store call does. -/
theorem run_inSteps (script : FileScript α) (a : App) :
    (inSteps script).run Act.carryOut a = a.onStore script := by
  induction script generalizing a with
  | done r => rfl
  | call c next ih =>
    have later := ih (a.shelf.perform c).2 (a.onStore (.ask c)).1
    rw [inSteps, inStep, Script.run]
    change (if c.waits then _ else _ : ActScript α).run Act.carryOut _ = _
    cases c.waits with
    | true => exact later
    | false => exact later

theorem run_ofCall {a : App} (unfailing : a.faults = .none) (c : Call) :
    (ofCall c).run Act.carryOut a = a.perform c := by
  cases c with
  | find loginId => rw [App.perform_find unfailing, ofCall, run_inSteps, App.onStore_find]
  | insert m => rw [App.perform_insert unfailing, ofCall, run_inSteps]
  | update loginId passwordHash => rw [App.perform_update unfailing, ofCall, run_inSteps]
  | salt => rfl
  | evict loginId => rfl
  | count k => rfl

/-- A request that nothing comes between does what the application does for it. -/
theorem run_spelledOut {a : App} (unfailing : a.faults = .none) (script : ServiceScript α) :
    (spelledOut script).run Act.carryOut a = a.serve script := by
  induction script generalizing a with
  | done r => rfl
  | call c next ih =>
    rw [spelledOut, Script.run_bind, run_ofCall unfailing]
    exact ih _ (App.perform_faults unfailing c)

end Spelling

/-- What a look-up makes of the document that it reads. -/
def lookedUp : Except FileError String → Except Failure (Option Member)
  | .error .notFound => .ok none
  | .error _ => .error ioFailure
  | .ok text =>
    match Member.parse text with
    | .ok m => .ok (some m)
    | .error _ => .error .json

/-- A verification reads one document, if the login id can name one at all. -/
theorem spelledOut_verify_cases (rules : Rules) (loginId password : String) :
    spelledOut (verify rules loginId password) = .done (.error .notFound) ∨
      spelledOut (verify rules loginId password) =
          (.call (.file (.read (documentPath loginId))) fun r =>
            .call .wake fun _ => .done (verdictOn rules password (lookedUp r))) ∧
        ∀ s : Shelf, s.find loginId = lookedUp (s.disk.read (documentPath loginId)) := by
  have spelled : spelledOut (verify rules loginId password) =
      inSteps (find loginId) >>= fun found => .done (verdictOn rules password found) := by
    rw [verify_eq]
    rfl
  rw [spelled]
  cases valid : LoginId.check loginId with
  | error e =>
    rw [find, valid]
    exact Or.inl rfl
  | ok u =>
    have asks : find loginId = .call (.read (documentPath loginId)) fun r => .done (lookedUp r) := by
      rw [find, valid]
      refine congrArg (Script.call _) (funext fun r => ?_)
      rcases r with _ | text
      · rename_i e
        cases e <;> rfl
      · simp only [Script.bind, lookedUp]
        cases Member.parse text <;> rfl
    refine Or.inr ⟨?_, fun s => ?_⟩
    · rw [asks]
      rfl
    · rw [Shelf.find, asks]
      rfl

/-- The eviction comes next. -/
inductive EvictionDue (loginId : String) {α : Type} : ActScript α → Prop
  | evict (next : Bool → ActScript α) : EvictionDue loginId (.call (.evict loginId) next)
  | wake (next : Unit → ActScript α) (due : EvictionDue loginId (next ())) :
    EvictionDue loginId (.call .wake next)

/-- The document of the member is spared but for renames onto it, and when one of them succeeds, the
eviction comes next. -/
inductive Invalidates (loginId : String) {α : Type} : ActScript α → Prop
  | done (result : α) : Invalidates loginId (.done result)
  | call (act : Act) (next : act.Reply → ActScript α)
    (spares : documentPath loginId ∉ act.replaces)
    (later : ∀ a : App, Invalidates loginId (next (act.carryOut a).2)) :
    Invalidates loginId (.call act next)
  | rename (source : Path) (next : Except FileError Unit → ActScript α)
    (due : EvictionDue loginId (next (.ok ()))) (later : ∀ r, Invalidates loginId (next r)) :
    Invalidates loginId (.call (.file (.rename source (documentPath loginId))) next)

section Invalidates

variable {α β : Type} {loginId : String}

theorem invalidates_next {act : Act} {next : act.Reply → ActScript α}
    (h : Invalidates loginId (.call act next)) (a : App) :
    Invalidates loginId (next (act.carryOut a).2) := by
  cases h with
  | call _ _ _ later => exact later a
  | rename source _ _ later => exact later _

theorem invalidates_wake {next : Unit → ActScript α} (later : Invalidates loginId (next ())) :
    Invalidates loginId (.call .wake next) :=
  .call .wake next List.not_mem_nil fun _ => later

theorem invalidates_inStep {c : FileCall} {next : c.Reply → ActScript α}
    (here : documentPath loginId ∉ c.replaces)
    (later : ∀ s : Shelf, Invalidates loginId (next (s.perform c).2)) :
    Invalidates loginId (inStep c next) := by
  refine .call (.file c) _ here fun a => ?_
  have went : Invalidates loginId (next (Act.carryOut (.file c) a).2) := later a.shelf
  cases c.waits with
  | true => exact invalidates_wake went
  | false => exact went

theorem invalidates_bind {script : FileScript α} (h : Spares (documentPath loginId) script)
    {f : α → ActScript β} (later : ∀ a, Invalidates loginId (f a)) :
    Invalidates loginId (inSteps script >>= f) := by
  induction h with
  | done a => exact later a
  | call c next here _ ih =>
    rw [inSteps, inStep_bind]
    exact invalidates_inStep here ih

/-- What follows the writing aside of a text is given a temporary path or a failure. -/
theorem invalidates_writeAside {text : String} {f : Except Failure Path → ActScript β}
    (written : ∀ n, Invalidates loginId (f (.ok (temporaryPath n))))
    (failed : ∀ e, Invalidates loginId (f (.error e))) :
    Invalidates loginId (inSteps (writeAside text) >>= f) := by
  have temporary n := (temporaryPath_ne_documentPath n loginId).symm
  rw [writeAside, inSteps_bind]
  refine invalidates_inStep (c := .freshPath) (by simp [FileCall.replaces]) fun s => ?_
  rw [inSteps_bind]
  refine invalidates_inStep (c := .write (temporaryPath s.freshCount) text)
    (by simpa [FileCall.replaces] using temporary s.freshCount) fun s' => ?_
  cases (s'.perform (.write (temporaryPath s.freshCount) text)).2 with
  | ok u => exact written s.freshCount
  | error e =>
    change Invalidates loginId (inSteps _ >>= f)
    rw [inSteps_bind]
    exact invalidates_bind (spares_removeQuietly (temporary _)) fun _ => failed ioFailure

/-- An update replaces the document of its member by a rename, which is the last step if it
succeeds. -/
theorem invalidates_update (subject passwordHash : String) {f : Except Failure Unit → ActScript β}
    (due : EvictionDue subject (f (.ok ()))) (later : ∀ r, Invalidates loginId (f r)) :
    Invalidates loginId (inSteps (update subject passwordHash) >>= f) := by
  by_cases other : loginId ≠ subject
  · exact invalidates_bind (spares_update other passwordHash) later
  obtain rfl := not_ne_iff.mp other
  rw [update, inSteps_bind]
  refine invalidates_bind (spares_find _ _) fun found => ?_
  rcases found with e | _ | m
  · exact later _
  · exact later _
  · dsimp only
    rw [inSteps_bind]
    refine invalidates_writeAside (fun n => ?_) fun e => later _
    dsimp only
    rw [inSteps_bind]
    refine .rename (temporaryPath n) _ (.wake _ due) fun r => invalidates_wake ?_
    cases r with
    | ok u => exact later _
    | error e =>
      change Invalidates loginId (inSteps _ >>= f)
      rw [inSteps_bind]
      exact invalidates_bind (spares_removeQuietly (temporaryPath_ne_documentPath n _).symm)
        fun _ => later _

end Invalidates

section Requests

variable (rules : Rules) (loginId : String)

theorem invalidates_register (r : Registration) :
    Invalidates loginId (spelledOut (register rules r)) := by
  rw [register]
  cases checkRegistration rules r with
  | error e => exact .done _
  | ok admission =>
    refine .call .salt _ List.not_mem_nil fun a => invalidates_wake ?_
    refine invalidates_bind (spares_insert loginId _) fun inserted => ?_
    cases inserted with
    | error e => exact .done _
    | ok m => exact .call (.count _) _ List.not_mem_nil fun _ => .done _

theorem invalidates_changePassword (subject current new : String) :
    Invalidates loginId (spelledOut (changePassword rules subject current new)) := by
  rw [Changing.changePassword_eq]
  refine invalidates_bind (spares_find _ _) fun found => ?_
  rcases found with e | _ | m
  · exact .done _
  · exact .done _
  · rw [Changing.afterLookup]
    cases checkChange rules m current new with
    | error e => exact .done _
    | ok u =>
      refine .call .salt _ List.not_mem_nil fun a => invalidates_wake ?_
      refine invalidates_update subject _ (.evict _) fun updated => ?_
      cases updated with
      | error e => exact .done _
      | ok u =>
        refine .call (.evict subject) _ List.not_mem_nil fun _ => ?_
        exact .call (.count _) _ List.not_mem_nil fun _ => .done _

end Requests

end Abandonment

end MemberAuth
