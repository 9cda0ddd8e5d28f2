import MemberAuth.Proofs.Service.Calls
import MemberAuth.Proofs.Service.Checks
import Mathlib.Data.List.Induction
import Mathlib.Logic.Relation

/-!
# Password changes side by side

Any number of password changes at once on one application, beside the calls of other requests, on
any disk and with any failures of the store. A history keeps the hashes that were replaced, in the
order in which that took effect. Between its look-up and its update a change has verified its
current password against the hash that it read, and what is stored is the member that it read with
the replacements since then.
-/
namespace MemberAuth.Changing

open Service

/-- A hash took the place of another one. -/
structure Replacement where
  loginId : String
  /-- What a look-up gave right before. -/
  old : Except Failure (Option Member)
  new : String

/-- An application with the replacements that took effect on it, the oldest first. -/
structure Chronicle where
  app : App
  history : List Replacement

/-- A request to change a password. -/
structure Change where
  loginId : String
  current : String
  new : String
  rest : ServiceScript (Except Failure Member)
  /-- What its look-up reported, and how many replacements there had been by then. -/
  seen : Option (Except Failure (Option Member) × Nat)
  /-- Where in the history its own replacement stands. -/
  place : Option Nat

namespace Chronicle

/-- What a call with this reply adds to the history. -/
def replacements (k : Chronicle) : (call : Call) → call.Reply → List Replacement
  | .update loginId new, .ok () => [⟨loginId, k.app.shelf.find loginId, new⟩]
  | _, _ => []

def perform (k : Chronicle) (call : Call) : Chronicle × call.Reply :=
  let (app, reply) := k.app.perform call
  (⟨app, k.history ++ k.replacements call reply⟩, reply)

end Chronicle

namespace Change

def start (rules : Rules) (loginId current new : String) : Change :=
  ⟨loginId, current, new, changePassword rules loginId current new, none, none⟩

/-- Notes down a look-up and a replacement, at the length that the history has before them. -/
def note (c : Change) (length : Nat) : (call : Call) → call.Reply → Change
  | .find _, found => { c with seen := some (found, length) }
  | .update _ _, .ok () => { c with place := some length }
  | _, _ => c

/-- The next call of a change. -/
def turn (k : Chronicle) (c : Change) : Chronicle × Change :=
  match c.rest with
  | .done _ => (k, c)
  | .call call next =>
    let (l, reply) := k.perform call
    (l, { c.note k.history.length call reply with rest := next reply })

end Change

structure Scene where
  chronicle : Chronicle
  changes : List Change

namespace Scene

inductive Step : Scene → Scene → Prop
  | arrive (k : Chronicle) (changes : List Change) (loginId current new : String) :
    Step ⟨k, changes⟩ ⟨k, changes ++ [.start k.app.rules loginId current new]⟩
  | turn (k : Chronicle) (before after : List Change) (c : Change) :
    Step ⟨k, before ++ c :: after⟩ ⟨(c.turn k).1, before ++ (c.turn k).2 :: after⟩
  /-- Another request makes a call. -/
  | other (k : Chronicle) (changes : List Change) (call : Call) :
    Step ⟨k, changes⟩ ⟨(k.perform call).1, changes⟩
  /-- Time passes, and decisions use the cache. -/
  | elsewhere (k : Chronicle) (changes : List Change) (gate : Gate) (now : Nat) :
    Step ⟨k, changes⟩ ⟨{ k with app := { k.app with gate, now } }, changes⟩

/-- Any number of steps in any order. -/
def Reaches : Scene → Scene → Prop :=
  Relation.ReflTransGen Step

end Scene

section Rehashed

/-- A member after replacements, of which those of its login id concern it. -/
def rehashed (loginId : String) (m : Member) (history : List Replacement) : Member :=
  history.foldl (fun m r => if r.loginId = loginId then { m with passwordHash := r.new } else m) m

variable (loginId : String) (m : Member)

theorem rehashed_append_own (history : List Replacement) (old : Except Failure (Option Member))
    (new : String) : rehashed loginId m (history ++ [⟨loginId, old, new⟩]) =
      { rehashed loginId m history with passwordHash := new } := by
  rw [rehashed, List.foldl_append]
  exact if_pos rfl

theorem rehashed_append_other (history : List Replacement) {r : Replacement}
    (other : r.loginId ≠ loginId) :
    rehashed loginId m (history ++ [r]) = rehashed loginId m history := by
  rw [rehashed, List.foldl_append]
  exact if_neg other

/-- The hash of the member is its first one, or the one that some replacement put in place. -/
theorem rehashed_cases (history : List Replacement) :
    rehashed loginId m history = m ∨ ∃ (i : Nat) (old : Except Failure (Option Member)),
      history[i]? = some ⟨loginId, old, (rehashed loginId m history).passwordHash⟩ := by
  induction history using List.reverseRecOn with
  | nil => exact Or.inl rfl
  | append_singleton history r ih =>
    by_cases own : r.loginId = loginId
    · subst own
      refine Or.inr ⟨history.length, r.old, ?_⟩
      rw [rehashed_append_own]
      simp
    · rw [rehashed_append_other loginId m history own]
      rcases ih with same | ⟨i, old, entry⟩
      · exact Or.inl same
      · have bound := (List.getElem?_eq_some_iff.mp entry).1
        exact Or.inr ⟨i, old, (List.getElem?_append_left bound).trans entry⟩

end Rehashed

/-- Neither looks up nor updates. -/
def Quiet (call : Call) : Prop :=
  (∀ loginId, call ≠ .find loginId) ∧ ∀ loginId new, call ≠ .update loginId new

theorem note_of_quiet {call : Call} (quiet : Quiet call) (c : Change) (length : Nat)
    (reply : call.Reply) : c.note length call reply = c := by
  cases call with
  | find loginId => exact absurd rfl (quiet.1 loginId)
  | update loginId new => exact absurd rfl (quiet.2 loginId new)
  | insert m => rfl
  | salt => rfl
  | evict loginId => rfl
  | count k => rfl

theorem Change.turn_of_done {k : Chronicle} (c : Change) {result : Except Failure Member}
    (rest : c.rest = .done result) : c.turn k = (k, c) := by
  rw [turn, rest]

theorem Change.turn_of_quiet {k : Chronicle} (c : Change) {call : Call}
    {next : call.Reply → ServiceScript (Except Failure Member)} (rest : c.rest = .call call next)
    (quiet : Quiet call) :
    c.turn k = ((k.perform call).1, { c with rest := next (k.perform call).2 }) := by
  rw [turn, rest]
  dsimp only
  rw [note_of_quiet quiet]

/-- The script ends with this result, after calls that neither look up nor update. -/
inductive Ends (result : Except Failure Member) : ServiceScript (Except Failure Member) → Prop
  | done : Ends result (.done result)
  | call {call next} (quiet : Quiet call) (later : ∀ reply, Ends result (next reply)) :
    Ends result (.call call next)

/-- The script updates the hash of a member that was read, and ends with what the update did. -/
inductive Writes (loginId : String) (m : Member) : ServiceScript (Except Failure Member) → Prop
  | update {new next} (changed : Ends (.ok { m with passwordHash := new }) (next (.ok ())))
    (failed : ∀ e, Ends (.error e) (next (.error e))) :
    Writes loginId m (.call (.update loginId new) next)
  | call {call next} (quiet : Quiet call) (later : ∀ reply, Writes loginId m (next reply)) :
    Writes loginId m (.call call next)

section Script

variable (rules : Rules) (loginId current new : String)

/-- The end of a change, with the hash for the new password. -/
def storing (loginId passwordHash : String) (m : Member) :
    ServiceScript (Except Failure Member) := do
  match ← ServiceScript.update loginId passwordHash with
  | .error e => pure (.error e)
  | .ok () =>
    let _ ← ServiceScript.evict loginId
    ServiceScript.count .passwordChanged
    pure (.ok { m with passwordHash })

/-- How a change goes on when everything has been checked. -/
def replacing (m : Member) : ServiceScript (Except Failure Member) := do
  let salt ← ServiceScript.salt
  storing loginId (rules.hasher.hash salt new) m

/-- How a change goes on after the look-up. -/
def afterLookup : Except Failure (Option Member) → ServiceScript (Except Failure Member)
  | .error e => .done (.error e)
  | .ok none => .done (.error .authenticationFailed)
  | .ok (some m) =>
    match checkChange rules m current new with
    | .error e => .done (.error e)
    | .ok () => replacing rules loginId new m

theorem changePassword_eq : changePassword rules loginId current new =
    .call (.find loginId) (afterLookup rules loginId current new) := by
  refine congrArg (Script.call _) (funext fun found => ?_)
  match found with
  | .error e => rfl
  | .ok none => rfl
  | .ok (some m) =>
    rw [afterLookup]
    cases check : checkChange rules m current new with
    | error e =>
      simp only [Script.bind, check]
      rfl
    | ok u =>
      simp only [Script.bind, check]
      rfl

theorem writes_replacing (m : Member) : Writes loginId m (replacing rules loginId new m) := by
  refine .call ⟨by simp, by simp⟩ fun salt => .update ?_ fun e => .done
  exact .call ⟨by simp, by simp⟩ fun _ => .call ⟨by simp, by simp⟩ fun _ => .done

end Script

/-- What a call does to the stored members, and to the history. -/
inductive Effect (k l : Chronicle) : Prop
  | quiet (history : l.history = k.history)
    (stored : ∀ (loginId : String) (m : Member), k.app.shelf.find loginId = .ok (some m) →
      l.app.shelf.find loginId = .ok (some m))
  | replaced {loginId new : String} {m : Member}
    (before : k.app.shelf.find loginId = .ok (some m))
    (after : l.app.shelf.find loginId = .ok (some { m with passwordHash := new }))
    (others : ∀ (other : String) (n : Member), other ≠ loginId →
      k.app.shelf.find other = .ok (some n) → l.app.shelf.find other = .ok (some n))
    (history : l.history = k.history ++ [⟨loginId, .ok (some m), new⟩])

namespace Chronicle

variable (k : Chronicle)

theorem app_perform (call : Call) : (k.perform call).1.app = (k.app.perform call).1 := rfl

theorem perform_rules (call : Call) : (k.perform call).1.app.rules = k.app.rules :=
  k.app.perform_rules call

theorem history_of_not_update {call : Call} (h : ∀ loginId new, call ≠ .update loginId new) :
    (k.perform call).1.history = k.history := by
  cases call with
  | update loginId new => exact absurd rfl (h loginId new)
  | find loginId => exact List.append_nil _
  | insert m => exact List.append_nil _
  | salt => exact List.append_nil _
  | evict loginId => exact List.append_nil _
  | count c => exact List.append_nil _

theorem history_of_update_error {loginId new : String} {e : Failure}
    (failed : (k.perform (.update loginId new)).2 = .error e) :
    (k.perform (.update loginId new)).1.history = k.history := by
  have failed : (k.app.perform (.update loginId new)).2 = .error e := failed
  rw [perform]
  dsimp only
  rw [failed]
  exact List.append_nil _

/-- An update that succeeds finds a member, and notes it down. -/
theorem update_ok {loginId new : String} (changed : (k.perform (.update loginId new)).2 = .ok ()) :
    ∃ m, k.app.shelf.find loginId = .ok (some m) ∧
      (k.perform (.update loginId new)).1.app.shelf.find loginId =
        .ok (some { m with passwordHash := new }) ∧
      (k.perform (.update loginId new)).1.history =
        k.history ++ [⟨loginId, .ok (some m), new⟩] := by
  have changed : (k.app.perform (.update loginId new)).2 = .ok () := changed
  obtain ⟨m, before, after⟩ := k.app.find_of_perform_update changed
  refine ⟨m, before, after, ?_⟩
  rw [perform]
  dsimp only
  rw [changed, replacements, before]

theorem effect (call : Call) : Effect k (k.perform call).1 := by
  by_cases updates : ∃ loginId new, call = .update loginId new
  · obtain ⟨loginId, new, rfl⟩ := updates
    cases reply : (k.perform (.update loginId new)).2 with
    | error e =>
      have failed : (k.app.perform (.update loginId new)).2 = .error e := reply
      refine .quiet (k.history_of_update_error reply) fun other m stored => ?_
      rw [k.app_perform]
      refine k.app.find_of_perform stored fun hash same => ?_
      cases same
      exact ⟨e, failed⟩
    | ok u =>
      obtain ⟨m, before, after, history⟩ := k.update_ok reply
      refine .replaced before after (fun other n apart stored => ?_) history
      rw [k.app_perform]
      refine k.app.find_of_perform stored fun hash same => ?_
      cases same
      exact absurd rfl apart
  · have none : ∀ loginId new, call ≠ .update loginId new :=
      fun loginId new same => updates ⟨loginId, new, same⟩
    refine .quiet (k.history_of_not_update none) fun loginId m stored => ?_
    exact k.app.find_of_perform stored fun hash same => absurd same (none loginId hash)

end Chronicle

/-- A change that has its answer does nothing any more. -/
theorem Change.effect_turn (k : Chronicle) (c : Change) :
    Effect k (c.turn k).1 ∧ (c.turn k).1.app.rules = k.app.rules := by
  match rest : c.rest with
  | .done result =>
    rw [c.turn_of_done rest]
    exact ⟨.quiet rfl fun _ _ stored => stored, rfl⟩
  | .call call next =>
    rw [turn, rest]
    exact ⟨k.effect call, k.perform_rules call⟩

/-- Where a change stands. -/
inductive Stage (k : Chronicle) (c : Change) : Prop
  | arrived (rest : c.rest = changePassword k.app.rules c.loginId c.current c.new)
  | refused {e : Failure} (rest : Ends (.error e) c.rest)
  /-- The current password verifies against the hash that was read. What is stored is the member
  with the replacements since then. -/
  | checked {m : Member} {n : Nat} (seen : c.seen = some (.ok (some m), n))
    (accepts : k.app.rules.hasher.verify m.passwordHash c.current = true)
    (past : n ≤ k.history.length)
    (stored : k.app.shelf.find c.loginId =
      .ok (some (rehashed c.loginId m (k.history.drop n))))
    (rest : Writes c.loginId m c.rest)
  /-- What was stored is replaced. -/
  | written {m : Member} {n j : Nat} {new : String} (seen : c.seen = some (.ok (some m), n))
    (accepts : k.app.rules.hasher.verify m.passwordHash c.current = true)
    (order : n ≤ j) (place : c.place = some j)
    (entry : k.history[j]? =
      some ⟨c.loginId, .ok (some (rehashed c.loginId m ((k.history.take j).drop n))), new⟩)
    (rest : Ends (.ok { m with passwordHash := new }) c.rest)

namespace Stage

variable {k l : Chronicle} {c : Change}

/-- A change stays where it stands while others make their calls. -/
theorem frame (h : Stage k c) (effect : Effect k l) (rules : l.app.rules = k.app.rules) :
    Stage l c := by
  cases h with
  | arrived rest => exact .arrived (rules ▸ rest)
  | refused rest => exact .refused rest
  | checked seen accepts past stored rest =>
    rename_i m n
    cases effect with
    | quiet history keeps =>
      exact .checked seen (rules ▸ accepts) (history ▸ past) (history ▸ keeps _ _ stored) rest
    | replaced before after others history =>
      rename_i loginId new old
      have longer : n ≤ l.history.length := by
        rw [history, List.length_append]
        omega
      refine .checked seen (rules ▸ accepts) longer ?_ rest
      rw [history, List.drop_append_of_le_length past]
      by_cases own : loginId = c.loginId
      · subst own
        rw [rehashed_append_own, after]
        rw [stored, Except.ok.injEq, Option.some.injEq] at before
        rw [before]
      · rw [rehashed_append_other c.loginId m _ own]
        exact others _ _ (Ne.symm own) stored
  | written seen accepts order place entry rest =>
    rename_i m n j new
    have bound := (List.getElem?_eq_some_iff.mp entry).1
    cases effect with
    | quiet history keeps =>
      exact .written seen (rules ▸ accepts) order place (history ▸ entry) rest
    | replaced before after others history =>
      refine .written seen (rules ▸ accepts) order place ?_ rest
      rw [history, List.getElem?_append_left bound,
        List.take_append_of_le_length (Nat.le_of_lt bound)]
      exact entry

theorem of_lookup (rest : c.rest = changePassword k.app.rules c.loginId c.current c.new) :
    Stage (c.turn k).1 (c.turn k).2 := by
  have history : (k.perform (.find c.loginId)).1.history = k.history :=
    k.history_of_not_update (by simp)
  have rules := k.perform_rules (.find c.loginId)
  rw [changePassword_eq] at rest
  rw [Change.turn, rest]
  dsimp only
  match found : (k.perform (.find c.loginId)).2 with
  | .error e => exact .refused .done
  | .ok none => exact .refused .done
  | .ok (some m) =>
    rw [Change.note, afterLookup]
    cases check : checkChange k.app.rules m c.current c.new with
    | error e => exact .refused .done
    | ok u =>
      have stored := k.app.find_of_perform_find found
      have still : (k.perform (.find c.loginId)).1.app.shelf.find c.loginId = .ok (some m) := by
        rw [k.app_perform]
        exact k.app.find_of_perform stored (by simp)
      refine .checked rfl ?_ (history ▸ Nat.le_refl _) ?_ (writes_replacing _ _ _ _)
      · rw [rules]
        exact (checkChange_eq_ok.mp check).1
      · rw [history, List.drop_length]
        exact still

theorem of_update {m : Member} {n : Nat} {new : String}
    {next : (Call.update c.loginId new).Reply → ServiceScript (Except Failure Member)}
    (seen : c.seen = some (.ok (some m), n))
    (accepts : k.app.rules.hasher.verify m.passwordHash c.current = true)
    (past : n ≤ k.history.length)
    (stored : k.app.shelf.find c.loginId = .ok (some (rehashed c.loginId m (k.history.drop n))))
    (rest : c.rest = .call (.update c.loginId new) next)
    (changed : Ends (.ok { m with passwordHash := new }) (next (.ok ())))
    (failed : ∀ e, Ends (.error e) (next (.error e))) : Stage (c.turn k).1 (c.turn k).2 := by
  rw [Change.turn, rest]
  dsimp only
  cases reply : (k.perform (.update c.loginId new)).2 with
  | error e => exact .refused (failed e)
  | ok u =>
    obtain ⟨old, before, _, history⟩ := k.update_ok reply
    rw [stored, Except.ok.injEq, Option.some.injEq] at before
    refine .written seen ?_ past rfl ?_ changed
    · rw [k.perform_rules]
      exact accepts
    · subst before
      rw [history, List.getElem?_append_right (Nat.le_refl _), Nat.sub_self, List.take_left]
      rfl

/-- Every call of a change brings it further. -/
theorem turn (h : Stage k c) : Stage (c.turn k).1 (c.turn k).2 := by
  match rest : c.rest with
  | .done result =>
    rw [c.turn_of_done rest]
    exact h
  | .call call next =>
  -- A quiet call is noted nowhere, so the rest of the script stands where the whole stood.
  have goes (quiet : Quiet call) (later : Stage k { c with rest := next (k.perform call).2 }) :
      Stage (c.turn k).1 (c.turn k).2 := by
    rw [c.turn_of_quiet rest quiet]
    exact later.frame (k.effect call) (k.perform_rules call)
  cases h with
  | arrived rest => exact of_lookup rest
  | refused ends =>
    rw [rest] at ends
    cases ends with
    | call quiet later => exact goes quiet (.refused (later _))
  | checked seen accepts past stored writes =>
    rw [rest] at writes
    cases writes with
    | update changed failed => exact of_update seen accepts past stored rest changed failed
    | call quiet later => exact goes quiet (.checked seen accepts past stored (later _))
  | written seen accepts order place entry ends =>
    rw [rest] at ends
    cases ends with
    | call quiet later => exact goes quiet (.written seen accepts order place entry (later _))

end Stage

/-- Every change stands somewhere. -/
structure Ordered (rules : Rules) (s : Scene) : Prop where
  rules : s.chronicle.app.rules = rules
  stages : ∀ c ∈ s.changes, Stage s.chronicle c

theorem ordered_step {rules : Rules} {s t : Scene} (h : Ordered rules s) (step : s.Step t) :
    Ordered rules t := by
  cases step with
  | arrive k changes loginId current new =>
    refine ⟨h.rules, fun c hc => ?_⟩
    rcases List.mem_append.mp hc with old | arrived
    · exact h.stages c old
    · rw [List.mem_singleton.mp arrived]
      exact .arrived rfl
  | turn k before after c =>
    obtain ⟨effect, rules⟩ := c.effect_turn k
    refine ⟨rules.trans h.rules, fun d hd => ?_⟩
    rcases List.mem_append.mp hd with front | back
    · exact (h.stages d (by simp [front])).frame effect rules
    rcases List.mem_cons.mp back with rfl | behind
    · exact (h.stages c (by simp)).turn
    · exact (h.stages d (by simp [behind])).frame effect rules
  | other k changes call =>
    exact ⟨(k.perform_rules call).trans h.rules,
      fun c hc => (h.stages c hc).frame (k.effect call) (k.perform_rules call)⟩
  | elsewhere k changes gate now =>
    exact ⟨h.rules, fun c hc => (h.stages c hc).frame (.quiet rfl fun _ _ stored => stored) rfl⟩

theorem ordered_of_reaches {a : App} {s : Scene} (run : Scene.Reaches ⟨⟨a, []⟩, []⟩ s) :
    Ordered a.rules s := by
  induction run with
  | refl => exact ⟨rfl, by simp⟩
  | tail _ step ih => exact ordered_step ih step

end MemberAuth.Changing
