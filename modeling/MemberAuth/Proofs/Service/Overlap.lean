import MemberAuth.Proofs.Hash.Evaluation
import MemberAuth.Proofs.Service.Changes
import MemberAuth.Proofs.Service.Registration

/-!
# Which hash a password change replaces

A change that succeeds has verified its current password against the hash that it read. That hash is
the one that it replaces, unless another change has come in between: two changes of one password
that have both read the member before either of them updates it both succeed, and the second one
replaces the hash that the first one has just stored.
-/
namespace MemberAuth

namespace App

open Hash Service

/-- Passwords that the registered member may have. -/
theorem valid_ada : ∀ password ∈ ["Lovelace#1", "Lovelace#2", "Lovelace#3"],
    Policy.validate .requireAllClasses adaBirthDate password = .ok () := by decide +kernel

theorem accepts_ada (hasher : Hasher) (cost : Cost) (password : String) :
    hasher.verify (adaMember cost password).passwordHash password = true :=
  (Hasher.verify_hash _ _ _ _ _).mpr rfl

/-- The registered member may change the password to either of the others. -/
theorem checkChange_ada {rules : Rules} (rule : rules.characterRule = .requireAllClasses) :
    ∀ new ∈ ["Lovelace#2", "Lovelace#3"],
      checkChange rules (adaMember lowestCost "Lovelace#1") "Lovelace#1" new = .ok () := by
  intro new listed
  -- Outputs that start with different bytes are different.
  have apart : (output new).head? ≠ (output "Lovelace#1").head? := by
    obtain ⟨h1, h2, h3⟩ := head_output
    simp only [List.mem_cons, List.not_mem_nil, or_false] at listed
    rcases listed with rfl | rfl
    · rw [h2, h1]
      decide
    · rw [h3, h1]
      decide
  refine checkChange_eq_ok.mpr ⟨accepts_ada _ _ _, verify_eq_false _ _ apart _, ?_⟩
  rw [rule]
  exact valid_ada new (List.mem_cons_of_mem _ listed)

end App

namespace Changing

open Hash Service Store Text

namespace Change

/-- Makes the calls of a script, one after the other. -/
def finish (k : Chronicle) (c : Change) :
    ServiceScript (Except Failure Member) → Chronicle × Change
  | .done _ => (k, c)
  | .call call next =>
    finish (k.perform call).1
      { c.note k.history.length call (k.perform call).2 with rest := next (k.perform call).2 }
      (next (k.perform call).2)

theorem reaches_finish {k : Chronicle} {c : Change} {script : ServiceScript (Except Failure Member)}
    (before after : List Change) (h : c.rest = script) :
    Scene.Reaches ⟨k, before ++ c :: after⟩
      ⟨(c.finish k script).1, before ++ (c.finish k script).2 :: after⟩ := by
  induction script generalizing k c with
  | done result => exact .refl
  | call call next ih =>
    have first := Scene.Step.turn k before after c
    rw [turn, h] at first
    exact .head first (ih _ rfl)

end Change

/-- How an application stands for changes of passwords. -/
structure Serves (rules : Rules) (salt : Salt) (k : Chronicle) (r : Roster) : Prop where
  unfailing : k.app.faults = .none
  keeps : k.app.shelf.Keeps r
  rules : k.app.rules = rules
  salts : ∀ n, k.app.salts n = salt

variable {rules : Rules} {salt : Salt} {k : Chronicle} {r : Roster} {c : Change}
  {loginId current new : String} {m old : Member}

theorem Serves.perform (h : Serves rules salt k r) (call : Call) :
    Serves rules salt (k.perform call).1 (r.after call) where
  unfailing := App.perform_faults h.unfailing call
  keeps := App.keeps_perform h.unfailing h.keeps call
  rules := (k.perform_rules call).trans h.rules
  salts n := by
    rw [k.app_perform, k.app.perform_salts]
    exact h.salts n

/-- An update of a stored member succeeds, and notes down what it replaces. -/
theorem Serves.update (h : Serves rules salt k r) (stored : r.members[loginId]? = some old)
    (new : String) : (k.perform (.update loginId new)).2 = .ok () ∧
      (k.perform (.update loginId new)).1.history =
        k.history ++ [⟨loginId, .ok (some old), new⟩] := by
  have told : (k.perform (.update loginId new)).2 = .ok () := by
    refine (App.reply_update h.unfailing h.keeps loginId new).trans ?_
    rw [Roster.update, stored]
  obtain ⟨found, before, _, noted⟩ := k.update_ok told
  rw [h.keeps.find, stored, Except.ok.injEq, Option.some.injEq] at before
  exact ⟨told, before ▸ noted⟩

theorem finish_storing (h : Serves rules salt k r) (stored : r.members[loginId]? = some old)
    (new : String) : ∃ l,
      c.finish k (storing loginId new m) =
        (l, { c with
          rest := .done (.ok { m with passwordHash := new }), place := some k.history.length }) ∧
      l.history = k.history ++ [⟨loginId, .ok (some old), new⟩] ∧
      Serves rules salt l (r.update loginId new).1 := by
  obtain ⟨reply, noted⟩ := h.update stored new
  have updated := h.perform (.update loginId new)
  have ends := (updated.perform (.evict loginId)).perform (.count .passwordChanged)
  refine ⟨_, ?_, ?_, ends⟩
  · rw [storing]
    change c.finish k (.call (.update loginId new) _) = _
    rw [Change.finish, reply]
    rfl
  · rw [Chronicle.history_of_not_update _ (by simp), Chronicle.history_of_not_update _ (by simp),
      noted]

/-- A change that has been checked replaces what is stored, whatever that is. -/
theorem finish_replacing (h : Serves rules salt k r) (stored : r.members[loginId]? = some old)
    (new : String) : ∃ l,
      c.finish k (replacing rules loginId new m) =
        (l, { c with
          rest := .done (.ok { m with passwordHash := rules.hasher.hash salt new })
          place := some k.history.length }) ∧
      l.history = k.history ++ [⟨loginId, .ok (some old), rules.hasher.hash salt new⟩] ∧
      Serves rules salt l (r.update loginId (rules.hasher.hash salt new)).1 := by
  have history : (k.perform .salt).1.history = k.history :=
    k.history_of_not_update (by simp)
  have given : (k.perform .salt).2 = salt := h.salts _
  obtain ⟨l, finished, noted, ends⟩ := finish_storing
    (c := { c with rest := storing loginId (rules.hasher.hash salt new) m }) (m := m)
    (h.perform .salt) stored (rules.hasher.hash salt new)
  rw [history] at finished noted
  refine ⟨l, ?_, noted, ends⟩
  rw [← finished, replacing]
  change c.finish k (.call .salt _) = _
  rw [Change.finish, given]
  rfl

/-- What the first call of a change does if it passes the checks. -/
theorem turn_start {a : App} (unfailing : a.faults = .none) (keeps : a.shelf.Keeps r)
    (stored : r.members[loginId]? = some m)
    (checked : checkChange a.rules m current new = .ok ()) :
    (Change.start a.rules loginId current new).turn ⟨a, []⟩ =
      (⟨a, []⟩, ⟨loginId, current, new, replacing a.rules loginId new m,
        some (.ok (some m), 0), none⟩) := by
  have looked : Chronicle.perform ⟨a, []⟩ (.find loginId) = (⟨a, []⟩, .ok (some m)) := by
    rw [Chronicle.perform, App.perform_find unfailing, keeps.find, stored]
    rfl
  rw [Change.start, changePassword_eq, Change.turn]
  dsimp only
  rw [looked, afterLookup, checked]
  rfl

/-- A change that has its answer. -/
def changed (hasher : Hasher) (salt : Salt) (m : Member) (loginId current new : String)
    (place : Nat) : Change :=
  ⟨loginId, current, new, .done (.ok { m with passwordHash := hasher.hash salt new }),
    some (.ok (some m), 0), some place⟩

/-- Any two changes of one password that pass the checks can overlap so that both succeed. The hash
that the second one replaces is then that of the first one. -/
theorem reaches_both_changed {a : App} {first second : String}
    (h : Serves a.rules salt ⟨a, []⟩ r) (stored : r.members[loginId]? = some m)
    (one : checkChange a.rules m current first = .ok ())
    (two : checkChange a.rules m current second = .ok ()) :
    ∃ k, Scene.Reaches ⟨⟨a, []⟩, []⟩ ⟨k, [changed a.rules.hasher salt m loginId current first 0,
        changed a.rules.hasher salt m loginId current second 1]⟩ ∧
      k.history = [⟨loginId, .ok (some m), a.rules.hasher.hash salt first⟩,
        ⟨loginId, .ok (some { m with passwordHash := a.rules.hasher.hash salt first }),
          a.rules.hasher.hash salt second⟩] := by
  have arrived : Scene.Reaches ⟨⟨a, []⟩, []⟩ ⟨⟨a, []⟩, [.start a.rules loginId current first,
      .start a.rules loginId current second]⟩ :=
    .tail (.single (.arrive ⟨a, []⟩ [] loginId current first))
      (.arrive ⟨a, []⟩ [_] loginId current second)
  have seen := arrived.tail (.turn ⟨a, []⟩ [] [_] (.start a.rules loginId current first))
  rw [turn_start h.unfailing h.keeps stored one] at seen
  have both := seen.tail (.turn ⟨a, []⟩ [_] [] (.start a.rules loginId current second))
  rw [turn_start h.unfailing h.keeps stored two] at both
  -- Both have read; now the first one writes.
  obtain ⟨l, written, noted, serves⟩ := finish_replacing
    (c := ⟨loginId, current, first, replacing a.rules loginId first m,
      some (.ok (some m), 0), none⟩) (m := m) h stored first
  have replaced := both.trans (Change.reaches_finish [] [_] rfl)
  rw [written] at replaced
  have rehashed : (r.update loginId (a.rules.hasher.hash salt first)).1.members[loginId]? =
      some { m with passwordHash := a.rules.hasher.hash salt first } := by
    rw [Roster.update, stored]
    exact (Roster.getElem?_insert ..).trans (if_pos rfl)
  obtain ⟨k, overwritten, ended, _⟩ := finish_replacing
    (c := ⟨loginId, current, second, replacing a.rules loginId second m,
      some (.ok (some m), 0), none⟩) (m := m) serves rehashed second
  have run := replaced.trans (Change.reaches_finish [_] [] rfl)
  rw [overwritten, noted] at run
  rw [noted] at ended
  exact ⟨k, run, ended⟩

/-- A member registers, and then changes the password twice at once. -/
theorem overlapping : ∃ b k,
    (App.costing lowestCost).register (App.adaRegistration "Lovelace#1") =
        (b, .ok (App.adaMember lowestCost "Lovelace#1")) ∧ b.rules.hasher = ⟨lowestCost⟩ ∧
      Scene.Reaches ⟨⟨b, []⟩, []⟩ ⟨k,
        [changed ⟨lowestCost⟩ (.replicate 16 7) (App.adaMember lowestCost "Lovelace#1") "ada"
            "Lovelace#1" "Lovelace#2" 0,
          changed ⟨lowestCost⟩ (.replicate 16 7) (App.adaMember lowestCost "Lovelace#1") "ada"
            "Lovelace#1" "Lovelace#3" 1]⟩ ∧
      k.history = [⟨"ada", .ok (some (App.adaMember lowestCost "Lovelace#1")),
          Hasher.hash ⟨lowestCost⟩ (.replicate 16 7) "Lovelace#2"⟩,
        ⟨"ada", .ok (some (App.adaMember lowestCost "Lovelace#2")),
          Hasher.hash ⟨lowestCost⟩ (.replicate 16 7) "Lovelace#3"⟩] := by
  obtain ⟨b, m, register, registered, stored⟩ :=
    App.register_ada lowestCost (App.valid_ada "Lovelace#1" (by simp))
  have rules : b.rules = ⟨⟨lowestCost⟩, .requireAllClasses⟩ := registered.rules
  have rule : b.rules.characterRule = .requireAllClasses := by rw [rules]
  have serves : Serves b.rules (.replicate 16 7) ⟨b, []⟩ (Roster.empty.insert m).1 :=
    ⟨registered.unfailing, registered.keeps, rfl, fun n => by rw [registered.salts]; rfl⟩
  obtain ⟨k, run, history⟩ := reaches_both_changed serves stored
    (App.checkChange_ada rule "Lovelace#2" (by simp))
    (App.checkChange_ada rule "Lovelace#3" (by simp))
  rw [rules] at run history
  exact ⟨b, k, register, by rw [rules], run, history⟩

/-- A password change that succeeds has verified its current password against the hash that it
read. What its update replaces is that hash, or one that another update has put in place in between.
-/
theorem replaced_read_or_overtaken {a : App} {s : Scene} {c : Change} {m : Member}
    (run : Scene.Reaches ⟨⟨a, []⟩, []⟩ s) (mem : c ∈ s.changes) (ok : c.rest = .done (.ok m)) :
    ∃ read n j old, c.seen = some (.ok (some read), n) ∧ c.place = some j ∧ n ≤ j ∧
      s.chronicle.history[j]? = some ⟨c.loginId, .ok (some old), m.passwordHash⟩ ∧
      a.rules.hasher.verify read.passwordHash c.current = true ∧
      (old = read ∨ ∃ i before, n ≤ i ∧ i < j ∧
        s.chronicle.history[i]? = some ⟨c.loginId, before, old.passwordHash⟩) := by
  have h := ordered_of_reaches run
  rw [← h.rules]
  cases h.stages c mem with
  | arrived rest =>
    rw [ok] at rest
    cases rest
  | refused ends =>
    rw [ok] at ends
    cases ends
  | checked seen accepts past stored writes =>
    rw [ok] at writes
    cases writes
  | written seen accepts order place entry ends =>
    rename_i read n j new
    rw [ok] at ends
    cases ends
    refine ⟨read, n, j, _, seen, place, order, entry, accepts, ?_⟩
    rcases rehashed_cases c.loginId read ((s.chronicle.history.take j).drop n) with
      same | ⟨i, before, between⟩
    · exact Or.inl same
    · rw [List.getElem?_drop, List.getElem?_take] at between
      split at between
      · exact Or.inr ⟨n + i, before, Nat.le_add_right n i, ‹_›, between⟩
      · cases between

/-- The first of two changes that overlap replaces the hash that it read. -/
theorem replaced_read_or_overtaken_of_first : ∃ b s c m,
    Scene.Reaches ⟨⟨b, []⟩, []⟩ s ∧ c ∈ s.changes ∧ c.rest = .done (.ok m) ∧
    ∃ read n j old, c.seen = some (.ok (some read), n) ∧ c.place = some j ∧ n ≤ j ∧
      s.chronicle.history[j]? = some ⟨c.loginId, .ok (some old), m.passwordHash⟩ ∧
      b.rules.hasher.verify read.passwordHash c.current = true ∧
      (old = read ∨ ∃ i before, n ≤ i ∧ i < j ∧
        s.chronicle.history[i]? = some ⟨c.loginId, before, old.passwordHash⟩) := by
  obtain ⟨b, k, _, _, run, _⟩ := overlapping
  exact ⟨b, _, _, _, run, List.mem_cons_self, rfl,
    replaced_read_or_overtaken run List.mem_cons_self rfl⟩

/-- Two changes with the same current password overlap, and both succeed, though neither of the new
passwords verifies against the hash of the other. The hash that the second one replaces does not
accept its current password any more. -/
theorem overtaken_change_succeeds : ∃ b k c d m n old,
    (App.costing lowestCost).register (App.adaRegistration "Lovelace#1") =
        (b, .ok (App.adaMember lowestCost "Lovelace#1")) ∧
      Scene.Reaches ⟨⟨b, []⟩, []⟩ ⟨k, [c, d]⟩ ∧
      c.loginId = d.loginId ∧ c.current = d.current ∧
      c.rest = .done (.ok m) ∧ d.rest = .done (.ok n) ∧
      b.rules.hasher.verify m.passwordHash d.new = false ∧
      b.rules.hasher.verify n.passwordHash c.new = false ∧
      d.place = some 1 ∧
      k.history[1]? = some ⟨d.loginId, .ok (some old), n.passwordHash⟩ ∧
      b.rules.hasher.verify old.passwordHash d.current = false := by
  obtain ⟨b, k, register, _, run, history⟩ := overlapping
  obtain ⟨h1, h2, h3⟩ := head_output
  have old := verify_eq_false "Lovelace#2" "Lovelace#1" (by rw [h1, h2]; decide)
  have later := verify_eq_false "Lovelace#2" "Lovelace#3" (by rw [h3, h2]; decide)
  have earlier := verify_eq_false "Lovelace#3" "Lovelace#2" (by rw [h2, h3]; decide)
  refine ⟨b, k, _, _, _, _, App.adaMember lowestCost "Lovelace#2", register, run, rfl, rfl, rfl,
    rfl, later _, earlier _, rfl, ?_, old _⟩
  rw [history]
  rfl

end Changing

end MemberAuth
