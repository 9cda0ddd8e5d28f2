import MemberAuth.Proofs.Auth.Acts
import MemberAuth.Proofs.Auth.Freshness
import MemberAuth.Proofs.Service.Footprint
import MemberAuth.Proofs.Service.Overlap

/-!
# The cache across password changes

However decisions, password changes and registrations go side by side: unless a change stands
between its update and its eviction, the cache lets a member in only on an entry whose decision has
verified the password against the very hash that is stored. A decision on the old password may be
under way all along. What it was told then comes too late to be written.
-/
namespace MemberAuth

open Hash Service Store

/-- Where there is no entry, the stored member decides, and the entry then decides the next request.
-/
theorem App.authenticate_of_absent {a : App} (unfailing : a.faults = .none)
    (formed : a.gate.cache.WellFormed) (lives : 0 < a.gate.cache.ttl) {loginId password : String}
    (absent : a.gate.cache.slots[loginId]? = none)
    (filled : ¬(Text.allBlank loginId || Text.allBlank password) = true) {m : Member}
    (stored : a.shelf.find loginId = .ok (some m))
    (accepts : a.rules.hasher.verify m.passwordHash password = true) : ∃ gate gate',
      a.authenticate loginId password = ({ a with gate }, .ok m.identity) ∧
        gate.cache = (a.gate.cache.put a.now loginId ⟨m.identity, passwordDigest password⟩).1 ∧
        gate.openRequest a.now loginId password = (gate', .decided (.ok m.identity)) := by
  have opened := Gate.openRequest_of_absent a.now filled absent
  obtain ⟨gate', again⟩ := Gate.openRequest_of_closeRequest (g := a.gate.count .cacheMiss) formed
    lives a.now filled m.identity
  have asked := App.verify_eq_verdictOn (a := { a with gate := a.gate.count .cacheMiss })
    unfailing loginId password
  refine ⟨_, gate', ?_, ?_, again⟩
  · rw [App.authenticate, opened]
    dsimp only
    rw [asked, verdictOn_eq_ok.mpr ⟨m, stored, accepts, rfl⟩]
    rfl
  · rw [Gate.cache_closeRequest_ok, if_pos rfl]
    rfl

namespace Interleaving

section Late

variable {a : App} {r : Roster} {loginId current password : String} {m : Member} {who : Identity}
  {epoch : Nat}

/-- A decision that has its verdict and has not acted on it yet. -/
def Task.told (loginId password : String) (epoch : Nat) (who : Identity) : Task :=
  .verifying loginId password epoch (.done (.ok who))

/-- Of two decisions on a password, one can have its verdict early and wait, while the other one
puts the entry into the cache. -/
theorem reaches_told (unfailing : a.faults = .none) (formed : a.gate.cache.WellFormed)
    (lives : 0 < a.gate.cache.ttl) (absent : a.gate.cache.slots[loginId]? = none)
    (filled : ¬(Text.allBlank loginId || Text.allBlank password) = true)
    (stored : a.shelf.find loginId = .ok (some m))
    (accepts : a.rules.hasher.verify m.passwordHash password = true) : ∃ gate gate',
      World.Reaches ⟨a, []⟩ ⟨{ a with gate }, [.told loginId password a.gate.cache.epoch m.identity,
        .decided loginId password (.ok m.identity)]⟩ ∧
      gate.cache = (a.gate.cache.put a.now loginId ⟨m.identity, passwordDigest password⟩).1 ∧
      gate.openRequest a.now loginId password = (gate', .decided (.ok m.identity)) := by
  have missed : Task.turn a (.deciding loginId password) =
      ({ a with gate := a.gate.count .cacheMiss },
        .verifying loginId password a.gate.cache.epoch (verify a.rules loginId password)) := by
    rw [Task.turn, Gate.openRequest_of_absent a.now filled absent]
  have opened : World.Reaches ⟨a, []⟩ ⟨(Task.turn a (.deciding loginId password)).1,
      [(Task.turn a (.deciding loginId password)).2]⟩ :=
    .tail (.single ⟨_, .authenticate ⟨a, []⟩ loginId password⟩)
      ⟨_, .turn a [] [] (.deciding loginId password)⟩
  rw [missed] at opened
  have asked := World.reaches_verified [] [] { a with gate := a.gate.count .cacheMiss } loginId
    password a.gate.cache.epoch (verify a.rules loginId password)
  have told : App.serve { a with gate := a.gate.count .cacheMiss }
      (verify a.rules loginId password) =
        ({ a with gate := a.gate.count .cacheMiss }, .ok m.identity) := by
    have told := App.verify_eq_verdictOn (a := { a with gate := a.gate.count .cacheMiss })
      unfailing loginId password
    rwa [verdictOn_eq_ok.mpr ⟨m, stored, accepts, rfl⟩] at told
  rw [told] at asked
  obtain ⟨gate, gate', authenticated, cache, again⟩ :=
    App.authenticate_of_absent (a := { a with gate := a.gate.count .cacheMiss }) unfailing formed
      lives absent filled stored accepts
  have decided := World.reaches_decided [.told loginId password a.gate.cache.epoch m.identity]
    { a with gate := a.gate.count .cacheMiss } loginId password
  rw [authenticated] at decided
  exact ⟨gate, gate', (opened.trans asked).trans decided, cache, again⟩

/-- A change that passes its checks, from its arrival to its answer. -/
theorem reaches_rehashed (tasks : List Task) (unfailing : a.faults = .none)
    (keeps : a.shelf.Keeps r) (stored : r.members[loginId]? = some m)
    (checked : checkChange a.rules m current password = .ok ()) : ∃ gate shelf passwordHash,
      World.Reaches ⟨a, tasks⟩ ⟨{ a with gate, shelf, saltCount := a.saltCount + 1 },
        tasks ++ [.serving loginId (.done (.ok { m with passwordHash }))]⟩ ∧
      passwordHash = a.rules.hasher.hash (a.salts a.saltCount) password ∧
      shelf.find loginId = .ok (some { m with passwordHash }) ∧
      gate.cache = (a.gate.cache.evict loginId).1 := by
  obtain ⟨passwordHash, shelf, hashed, changed, kept⟩ :=
    App.changePassword_of_check unfailing keeps stored checked
  have changing := World.reaches_changed tasks a loginId current password
  rw [changed] at changing
  refine ⟨_, shelf, passwordHash, changing, hashed, ?_, a.gate.cache_evict loginId⟩
  rw [kept.find, Roster.update, stored]
  exact congrArg Except.ok ((Roster.getElem?_insert ..).trans (if_pos rfl))

/-- After an eviction, the early verdict is not written any more, and the next decision is. -/
theorem reaches_renewed (after : List Task) (late : a.gate.cache.epoch ≠ epoch)
    (unfailing : a.faults = .none) (formed : a.gate.cache.WellFormed) (lives : 0 < a.gate.cache.ttl)
    (absent : a.gate.cache.slots[loginId]? = none)
    (filled : ¬(Text.allBlank loginId || Text.allBlank password) = true)
    (stored : a.shelf.find loginId = .ok (some m))
    (accepts : a.rules.hasher.verify m.passwordHash password = true) : ∃ gate gate',
      World.Reaches ⟨a, .told loginId current epoch who :: after⟩
        ⟨{ a with gate }, .decided loginId current (.ok who) ::
          (after ++ [.decided loginId password (.ok m.identity)])⟩ ∧
      gate.openRequest a.now loginId password = (gate', .decided (.ok m.identity)) := by
  have cache := a.gate.cache_closeRequest_ok a.now epoch loginId current who
  rw [if_neg late] at cache
  have closed : World.Reaches ⟨a, .told loginId current epoch who :: after⟩
      ⟨{ a with gate := (a.gate.closeRequest a.now loginId current epoch (.ok who)).1 },
        .decided loginId current (.ok who) :: after⟩ :=
    .single ⟨_, .turn a [] after (.told loginId current epoch who)⟩
  generalize (a.gate.closeRequest a.now loginId current epoch (.ok who)).1 = gate at cache closed
  obtain ⟨gate', again, authenticated, _, served⟩ :=
    App.authenticate_of_absent (a := { a with gate }) unfailing (cache ▸ formed) (cache ▸ lives)
      (cache ▸ absent) filled stored accepts
  have decided := World.reaches_decided (.decided loginId current (.ok who) :: after)
    { a with gate } loginId password
  rw [authenticated] at decided
  exact ⟨gate', again, closed.trans decided, served⟩

end Late

/-- A member registers, and is let in, so that there is an entry, while a second decision has its
verdict on the password and waits. Then the password is changed, the second decision comes too late
to be written, and the member is let in with the new password. -/
theorem reaches_across_change : ∃ b c d e gate gate' epoch,
    (App.costing lowestCost).register (App.adaRegistration "Lovelace#1") =
        (b, .ok (App.adaMember lowestCost "Lovelace#1")) ∧ b.gate.cache.slots = ∅ ∧
      World.Reaches ⟨b, []⟩ ⟨c, [.told "ada" "Lovelace#1" epoch ⟨1, "ada"⟩,
        .decided "ada" "Lovelace#1" (.ok ⟨1, "ada"⟩)]⟩ ∧
      c.gate.openRequest c.now "ada" "Lovelace#1" = (gate, .decided (.ok ⟨1, "ada"⟩)) ∧
      World.Reaches ⟨c, [.told "ada" "Lovelace#1" epoch ⟨1, "ada"⟩,
          .decided "ada" "Lovelace#1" (.ok ⟨1, "ada"⟩)]⟩
        ⟨d, [.told "ada" "Lovelace#1" epoch ⟨1, "ada"⟩,
          .decided "ada" "Lovelace#1" (.ok ⟨1, "ada"⟩),
          .serving "ada" (.done (.ok (App.adaMember lowestCost "Lovelace#2")))]⟩ ∧
      World.Reaches ⟨d, [.told "ada" "Lovelace#1" epoch ⟨1, "ada"⟩,
          .decided "ada" "Lovelace#1" (.ok ⟨1, "ada"⟩),
          .serving "ada" (.done (.ok (App.adaMember lowestCost "Lovelace#2")))]⟩
        ⟨e, [.decided "ada" "Lovelace#1" (.ok ⟨1, "ada"⟩),
          .decided "ada" "Lovelace#1" (.ok ⟨1, "ada"⟩),
          .serving "ada" (.done (.ok (App.adaMember lowestCost "Lovelace#2"))),
          .decided "ada" "Lovelace#2" (.ok ⟨1, "ada"⟩)]⟩ ∧
      e.gate.openRequest e.now "ada" "Lovelace#2" = (gate', .decided (.ok ⟨1, "ada"⟩)) := by
  obtain ⟨b, new, register, registered, stored⟩ :=
    App.register_ada lowestCost (App.valid_ada "Lovelace#1" (by simp))
  have rules : b.rules = ⟨⟨lowestCost⟩, .requireAllClasses⟩ := registered.rules
  have cache : b.gate.cache = App.newCache {} := registered.cache
  have formed : b.gate.cache.WellFormed := cache ▸ Cache.wellFormed_new _ _
  have empty : b.gate.cache.slots = ∅ := by rw [cache]; rfl
  have lives : 0 < b.gate.cache.ttl := by rw [cache]; decide
  have found : b.shelf.find "ada" = .ok (some (App.adaMember lowestCost "Lovelace#1")) := by
    rw [registered.keeps.find, stored]
  obtain ⟨gate, hit, told, written, cached⟩ := reaches_told registered.unfailing formed lives
    (by rw [empty]; rfl) (by decide) found (App.accepts_ada _ _ _)
  have checked : checkChange b.rules (App.adaMember lowestCost "Lovelace#1") "Lovelace#1"
      "Lovelace#2" = .ok () := App.checkChange_ada (by rw [rules]) "Lovelace#2" (by simp)
  obtain ⟨gate₂, shelf, passwordHash, changing, hashed, replaced, evicted⟩ := reaches_rehashed
    (a := { b with gate }) [.told "ada" "Lovelace#1" b.gate.cache.epoch ⟨1, "ada"⟩,
      .decided "ada" "Lovelace#1" (.ok ⟨1, "ada"⟩)]
    registered.unfailing registered.keeps stored checked
  have rehashed : { App.adaMember lowestCost "Lovelace#1" with passwordHash } =
      App.adaMember lowestCost "Lovelace#2" := by
    rw [hashed, rules, registered.salts]
    rfl
  rw [rehashed] at changing replaced
  -- The eviction has put the cache into a later epoch, and left no entry.
  dsimp only at evicted
  have late : gate₂.cache.epoch ≠ b.gate.cache.epoch := by
    rw [evicted, Cache.epoch_evict, written, Cache.epoch_put]
    omega
  have absent : gate₂.cache.slots["ada"]? = none := by
    rw [evicted]
    exact (gate.cache.remove_getElem? "ada" "ada").trans (if_pos rfl)
  have formed₂ : gate₂.cache.WellFormed := by
    rw [evicted, written]
    exact (formed.put _ _ _).evict "ada"
  have lives₂ : 0 < gate₂.cache.ttl := by
    have ttl : gate₂.cache.ttl = b.gate.cache.ttl := by
      rw [evicted, written]
      exact b.gate.cache.ttl_put ..
    rwa [ttl]
  have filled : ¬(Text.allBlank "ada" || Text.allBlank "Lovelace#2") = true := by decide
  obtain ⟨_, hit₂, deciding, again⟩ := reaches_renewed
    (a := { b with shelf, gate := gate₂, saltCount := b.saltCount + 1 }) [_, _] late
    registered.unfailing formed₂ lives₂ absent filled replaced (App.accepts_ada _ _ _)
  exact ⟨b, _, _, _, hit, hit₂, _, register, empty, told, cached, changing, deciding, again⟩

/-- Whatever runs side by side, the entries of a settled member are backed, and the cache lets the
member in on no others. -/
theorem settled_cache_current {a : App} {w : World} {log : List Event} {loginId : String}
    (empty : a.gate.cache.slots = ∅) (run : World.Run ⟨a, []⟩ log w)
    (settled : w.Settled loginId) :
    (∀ slot, w.app.gate.cache.slots[loginId]? = some slot → Backed w log loginId slot) ∧
      ∀ gate password who,
        w.app.gate.openRequest w.app.now loginId password = (gate, .decided (.ok who)) →
        ∃ slot, w.app.gate.cache.slots[loginId]? = some slot ∧
          slot.credential = ⟨who, passwordDigest password⟩ ∧ Backed w log loginId slot := by
  have backed := (fresh_of_run empty run).founded loginId
  refine ⟨fun slot resident => backed slot resident settled, fun gate password who served => ?_⟩
  obtain ⟨slot, resident, credential⟩ := Gate.openRequest_ok served
  exact ⟨slot, resident, credential, backed slot resident settled⟩

/-- The theorem at the end of the run above: the entry that is there then is for the new password,
and was verified against the new hash. -/
theorem settled_cache_current_across_change : ∃ b u v w epoch log slot,
    (App.costing lowestCost).register (App.adaRegistration "Lovelace#1") =
        (b, .ok (App.adaMember lowestCost "Lovelace#1")) ∧ b.gate.cache.slots = ∅ ∧
      World.Reaches ⟨b, []⟩ u ∧ u.tasks[0]? = some (.told "ada" "Lovelace#1" epoch ⟨1, "ada"⟩) ∧
      (∃ old, u.app.gate.cache.slots["ada"]? = some old ∧
        old.credential = ⟨⟨1, "ada"⟩, passwordDigest "Lovelace#1"⟩) ∧
      u.Reaches v ∧ v.tasks[0]? = some (.told "ada" "Lovelace#1" epoch ⟨1, "ada"⟩) ∧
      v.tasks[2]? =
        some (.serving "ada" (.done (.ok (App.adaMember lowestCost "Lovelace#2")))) ∧
      v.Reaches w ∧ w.tasks[0]? = some (.decided "ada" "Lovelace#1" (.ok ⟨1, "ada"⟩)) ∧
      World.Run ⟨b, []⟩ log w ∧ w.Settled "ada" ∧
      w.app.gate.cache.slots["ada"]? = some slot ∧
      slot.credential = ⟨⟨1, "ada"⟩, passwordDigest "Lovelace#2"⟩ ∧ Backed w log "ada" slot := by
  obtain ⟨b, c, d, e, _, _, epoch, register, empty, told, cached, changing, deciding, again⟩ :=
    reaches_across_change
  obtain ⟨log, run⟩ := World.reaches_iff_run.mp ((told.trans changing).trans deciding)
  have settled : World.Settled ⟨e, [.decided "ada" "Lovelace#1" (.ok ⟨1, "ada"⟩),
      .decided "ada" "Lovelace#1" (.ok ⟨1, "ada"⟩),
      .serving "ada" (.done (.ok (App.adaMember lowestCost "Lovelace#2"))),
      .decided "ada" "Lovelace#2" (.ok ⟨1, "ada"⟩)]⟩ "ada" := by
    refine settled_of_answered fun rest serving =>
      ⟨.ok (App.adaMember lowestCost "Lovelace#2"), ?_⟩
    simp only [List.mem_cons, reduceCtorEq, List.not_mem_nil, Task.serving.injEq, true_and,
      false_or, or_false] at serving
    exact serving
  obtain ⟨slot, resident, credential, backed⟩ :=
    (settled_cache_current empty run settled).2 _ _ _ again
  exact ⟨b, _, _, _, epoch, log, slot, register, empty, told, rfl, Gate.openRequest_ok cached,
    changing, rfl, rfl, deciding, rfl, run, settled, resident, credential, backed⟩

end Interleaving

end MemberAuth
