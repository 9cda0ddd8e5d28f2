import MemberAuth.Proofs.Auth.Abandonment
import MemberAuth.Proofs.Auth.Currency

/-!
# Password changes whose client is gone

Whether the eviction follows the replacement of a hash. It does, or the request that replaced it is
still about to evict, or it was abandoned between the two: any change that passes its checks can be
abandoned so, and then the cache goes on letting the member in with the old password.
-/
namespace MemberAuth

namespace Abandonment

open Hash Service Store

section Runs

variable {α β : Type} (before after : List Task)

/-- A request that nothing comes between goes through the beginning of its script. -/
theorem reaches_run (task : ActScript β → Task)
    (turns : ∀ a act next, Turn a before.length (task (.call act next)) (act.carryOut a).1
      (task (next (act.carryOut a).2)) (act.event before.length (act.carryOut a).2))
    (script : ActScript α) (rest : α → ActScript β) (a : App) (log : List Event) : ∃ log',
      World.Reaches ⟨a, before ++ task (script >>= rest) :: after, log⟩
        ⟨(script.run Act.carryOut a).1,
          before ++ task (rest (script.run Act.carryOut a).2) :: after, log'⟩ := by
  induction script generalizing a log with
  | done result => exact ⟨log, .refl⟩
  | call act next ih =>
    obtain ⟨log', later⟩ := ih (act.carryOut a).2 (act.carryOut a).1
      ((act.event before.length (act.carryOut a).2).toList ++ log)
    exact ⟨log', .head (.turn before after log (turns a act _)) later⟩

/-- A decision that nothing comes between does what the application does in one go. -/
theorem reaches_authenticate {a : App} (unfailing : a.faults = .none) (loginId password : String)
    (log : List Event) : ∃ log',
      World.Reaches ⟨a, before ++ .deciding loginId password :: after, log⟩
        ⟨(a.authenticate loginId password).1,
          before ++ .decided loginId password (a.authenticate loginId password).2 :: after,
          log'⟩ := by
  rw [App.authenticate]
  cases opened : a.gate.openRequest a.now loginId password with
  | mk gate opening =>
    cases opening with
    | decided result => exact ⟨log, .single (.turn before after log (.decide opened))⟩
    | pending epoch =>
      obtain ⟨log', asked⟩ := reaches_run before after (.verifying loginId password epoch)
        (fun _ => .verify loginId password epoch) (spelledOut (verify a.rules loginId password))
        .done { a with gate } log
      rw [run_spelledOut (a := { a with gate }) unfailing] at asked
      have bound := Script.bind_pure (spelledOut (verify a.rules loginId password))
      exact ⟨log', .head (.turn before after log (.ask opened))
        (.tail (bound ▸ asked) (.turn before after log' (.answer ..)))⟩

/-- The request can be abandoned right after it has replaced the document of the member, and that
leaves the application as `b`. -/
def CanStop (loginId : String) (b a : App) (script : ActScript (Except Failure Member)) : Prop :=
  ∀ log, ∃ left log', EvictionDue loginId left ∧
    World.Reaches ⟨a, before ++ .serving script :: after, log⟩
      ⟨b, before ++ .abandoned left :: after,
        .renamed (documentPath loginId) before.length :: log'⟩

variable {before after} {a b : App} {loginId : String}

theorem CanStop.of_rest (script : ActScript α) {rest : α → ActScript (Except Failure Member)}
    (h : CanStop before after loginId b (script.run Act.carryOut a).1
      (rest (script.run Act.carryOut a).2)) :
    CanStop before after loginId b a (script >>= rest) := by
  intro log
  obtain ⟨log', first⟩ := reaches_run before after .serving (fun _ => .serve) script rest a log
  obtain ⟨left, log'', due, later⟩ := h log'
  exact ⟨left, log'', due, first.trans later⟩

/-- The rename is carried out though nobody waits for it any more. -/
theorem canStop_rename {source : Path} {disk : Disk}
    (renamed : a.shelf.disk.rename source (documentPath loginId) = .ok disk)
    {next : Except FileError Unit → ActScript (Except Failure Member)}
    (due : EvictionDue loginId (next (.ok ()))) :
    CanStop before after loginId { a with shelf := { a.shelf with disk } } a
      (inStep (.rename source (documentPath loginId)) next) := by
  intro log
  have told : (Act.file (.rename source (documentPath loginId))).carryOut a =
      ({ a with shelf := { a.shelf with disk } }, .ok ()) := by
    rw [Act.carryOut, App.onStore, Script.run_ask, Shelf.perform, renamed]
    rfl
  have stopped : World.Step ⟨a, before ++ .serving (inStep _ next) :: after, log⟩ ⟨a, _, log⟩ :=
    .turn before after log (.abandon (.file (.rename source (documentPath loginId))) _ rfl)
  have settled := World.Step.turn before after log
    (Turn.settle (a := a) (.file (.rename source (documentPath loginId)))
      (fun r => .call .wake fun _ => next r) rfl)
  rw [told] at settled
  exact ⟨.call .wake fun _ => next (.ok ()), log, .wake _ due, .tail (.single stopped) settled⟩

/-- An update that would succeed can be abandoned at its rename. -/
theorem canStop_update {passwordHash : String}
    {rest : Except Failure Unit → ActScript (Except Failure Member)}
    (due : EvictionDue loginId (rest (.ok ())))
    (updated : ((update loginId passwordHash).run Shelf.perform a.shelf).2 = .ok ()) :
    CanStop before after loginId
      { a with shelf := ((update loginId passwordHash).run Shelf.perform a.shelf).1 } a
      (inSteps (update loginId passwordHash) >>= rest) := by
  rw [update] at updated ⊢
  rw [inSteps_bind]
  refine .of_rest (inSteps (find loginId)) ?_
  rw [run_inSteps, App.onStore_find]
  rw [Script.run_bind, Shelf.run_find] at updated ⊢
  rcases found : a.shelf.find loginId with e | _ | m
  · rw [found] at updated
    cases updated
  · rw [found] at updated
    cases updated
  · rw [found] at updated
    dsimp only at updated ⊢
    rw [inSteps_bind]
    refine .of_rest (inSteps (writeAside { m with passwordHash }.document)) ?_
    rw [run_inSteps, App.onStore]
    rw [Script.run_bind] at updated ⊢
    generalize (writeAside { m with passwordHash }.document).run Shelf.perform a.shelf = w
      at updated ⊢
    obtain ⟨s, e | temp⟩ := w
    · cases updated
    dsimp only at updated ⊢
    rw [Script.run_bind] at updated ⊢
    simp only [FileScript.rename, Script.run_ask, Shelf.perform] at updated ⊢
    cases renamed : s.disk.rename temp (documentPath loginId) with
    | error e =>
      rw [renamed] at updated
      cases updated
    | ok disk =>
      rw [inSteps_bind]
      exact canStop_rename (a := { a with shelf := s }) renamed due

variable {current new : String} {m : Member}

/-- A change that passes its checks can be abandoned at its rename. -/
theorem canStop_changePassword (stored : a.shelf.find loginId = .ok (some m))
    (checked : checkChange a.rules m current new = .ok ()) {passwordHash : String}
    (hashed : passwordHash = a.rules.hasher.hash (a.salts a.saltCount) new)
    (updated : ((update loginId passwordHash).run Shelf.perform a.shelf).2 = .ok ()) :
    CanStop before after loginId
      { a with
        shelf := ((update loginId passwordHash).run Shelf.perform a.shelf).1
        saltCount := a.saltCount + 1 } a
      (spelledOut (changePassword a.rules loginId current new)) := by
  subst hashed
  rw [Changing.changePassword_eq]
  refine .of_rest (inSteps (find loginId)) ?_
  rw [run_inSteps, App.onStore_find, stored]
  dsimp only
  rw [Changing.afterLookup, checked]
  refine .of_rest (ofCall .salt) ?_
  exact canStop_update (a := { a with saltCount := a.saltCount + 1 }) (.evict _) updated

variable (before after) in
/-- An abandoned change leaves the entry with the old password, and the cache lets it in. -/
theorem accepted_of_abandoned {who : Identity} {gate : Gate}
    (stored : a.shelf.find loginId = .ok (some m))
    (checked : checkChange a.rules m current new = .ok ()) {passwordHash : String}
    (hashed : passwordHash = a.rules.hasher.hash (a.salts a.saltCount) new)
    (updated : ((update loginId passwordHash).run Shelf.perform a.shelf).2 = .ok ())
    (cached : a.gate.openRequest a.now loginId current = (gate, .decided (.ok who)))
    (log : List Event) : ∃ b left log',
      World.Reaches
        ⟨a, before ++ .serving (spelledOut (changePassword a.rules loginId current new)) :: after,
          log⟩
        ⟨b, before ++ .abandoned left :: after,
          .renamed (documentPath loginId) before.length :: log'⟩ ∧
      b.rules = a.rules ∧ b.gate = a.gate ∧
      b.shelf.find loginId = .ok (some { m with passwordHash }) ∧
      (b.authenticate loginId current).2 = .ok who := by
  have stops : CanStop before after loginId _ a _ :=
    canStop_changePassword stored checked hashed updated
  obtain ⟨left, log', _, run⟩ := stops log
  refine ⟨_, left, log', run, rfl, rfl, ?_, ?_⟩
  · obtain ⟨_, found, replaced⟩ := Shelf.find_of_update_ok updated
    rw [stored] at found
    cases found
    exact replaced
  · rw [App.authenticate]
    dsimp only
    rw [cached]

end Runs

/-- A member registers, is let in, and changes the password; the change is abandoned at its rename.
-/
theorem reaches_abandoned : ∃ b w left log slot,
    (App.costing lowestCost).register (App.adaRegistration "Lovelace#1") =
        (b, .ok (App.adaMember lowestCost "Lovelace#1")) ∧
      b.gate.cache.slots = ∅ ∧ World.Reaches ⟨b, [], []⟩ w ∧
      w.log = .renamed (documentPath "ada") 1 :: log ∧ w.tasks[1]? = some (.abandoned left) ∧
      w.app.shelf.find "ada" = .ok (some (App.adaMember lowestCost "Lovelace#2")) ∧
      w.app.gate.cache.slots["ada"]? = some slot ∧
      slot.credential.digest = passwordDigest "Lovelace#1" ∧
      (w.app.authenticate "ada" "Lovelace#1").2 =
        .ok (App.adaMember lowestCost "Lovelace#1").identity := by
  have given : ¬(Text.allBlank "ada" || Text.allBlank "Lovelace#1") = true := by decide
  obtain ⟨b, new, register, registered, stored⟩ :=
    App.register_ada lowestCost (App.valid_ada "Lovelace#1" (by simp))
  have rules : b.rules = ⟨⟨lowestCost⟩, .requireAllClasses⟩ := registered.rules
  have cache : b.gate.cache = App.newCache {} := registered.cache
  have found : b.shelf.find "ada" = .ok (some (App.adaMember lowestCost "Lovelace#1")) := by
    rw [registered.keeps.find, stored]
  -- The first decision puts the entry into the cache.
  obtain ⟨gate, gate', authenticated, _, again⟩ := App.authenticate_of_absent registered.unfailing
    (cache ▸ Cache.wellFormed_new _ _) (by rw [cache]; decide) (by rw [cache]; rfl) given found
    (App.accepts_ada _ _ _)
  obtain ⟨log, decided⟩ := reaches_authenticate [] [] registered.unfailing "ada" "Lovelace#1" []
  rw [authenticated] at decided
  have asked := (Relation.ReflTransGen.single (World.Step.arrive ⟨b, [], []⟩ _
    (.authenticate "ada" "Lovelace#1"))).trans decided
  have arrived := asked.tail (.arrive _ _ (.change "ada" "Lovelace#1" "Lovelace#2"))
  have checked : checkChange b.rules (App.adaMember lowestCost "Lovelace#1") "Lovelace#1"
      "Lovelace#2" = .ok () := App.checkChange_ada (by rw [rules]) "Lovelace#2" (by simp)
  have updated : ((update "ada" (Hasher.hash ⟨lowestCost⟩ (.replicate 16 7) "Lovelace#2")).run
      Shelf.perform b.shelf).2 = .ok () := by
    rw [(registered.keeps.update _ _).1, Roster.update, stored]
  obtain ⟨c, left, log', abandoned, _, unchanged, replaced, accepted⟩ := accepted_of_abandoned
    [_] [] (a := { b with gate }) found checked (by rw [rules, registered.salts]; rfl) updated again
    log
  obtain ⟨slot, resident, credential⟩ := Gate.openRequest_ok again
  refine ⟨b, _, left, log', slot, register, by rw [cache]; rfl, arrived.trans abandoned, rfl, rfl,
    replaced, ?_, by rw [credential], accepted⟩
  rw [unchanged]
  exact resident

/-- Between two moments, what is stored about a member changes only by a rename onto its document.
After every such rename the member is evicted, or the request that made it would evict next: it is
just about to, or it was abandoned. And where the member was evicted after every rename, the cached
entry rests on a password that the stored hash accepts. -/
theorem evicted_unless_abandoned {a : App} {v w : World} (empty : a.gate.cache.slots = ∅)
    (start : World.Reaches ⟨a, [], []⟩ v) (run : v.Reaches w) (loginId : String) :
    (∀ m, v.app.shelf.find loginId = .ok (some m) →
      w.app.shelf.find loginId = .ok (some m) ∨ ∃ later place earlier,
        w.log = later ++ .renamed (documentPath loginId) place :: earlier ∧ v.log <:+ earlier) ∧
    (∀ later place earlier, w.log = later ++ .renamed (documentPath loginId) place :: earlier →
      .evicted loginId ∈ later ∨ ∃ rest, EvictionDue loginId rest ∧
        (w.tasks[place]? = some (.serving rest) ∨ w.tasks[place]? = some (.abandoned rest))) ∧
    ((∀ later place earlier, w.log = later ++ .renamed (documentPath loginId) place :: earlier →
        .evicted loginId ∈ later) →
      ∀ slot, w.app.gate.cache.slots[loginId]? = some slot → Backed w loginId slot) := by
  have fresh := fresh_of_reaches empty (start.trans run)
  refine ⟨fun m stored => stored_of_reaches (fresh_of_reaches empty start) run stored,
    fun later place earlier logged => ?_, fun covered slot resident => ?_⟩
  · by_cases evicted : .evicted loginId ∈ later
    · exact Or.inl evicted
    obtain ⟨t, there, owes⟩ :=
      fresh.owed loginId place (outstanding_iff.mpr ⟨later, earlier, logged, evicted⟩)
    cases t with
    | deciding loginId password => exact owes.elim
    | verifying loginId password epoch rest => exact owes.elim
    | decided loginId password result => exact owes.elim
    | serving rest => exact Or.inr ⟨rest, owes, Or.inl there⟩
    | abandoned rest => exact Or.inr ⟨rest, owes, Or.inr there⟩
  · refine fresh.founded loginId slot resident fun place out => ?_
    obtain ⟨later, earlier, logged, none⟩ := outstanding_iff.mp out
    exact none (covered later place earlier logged)

/-- A change that is abandoned at its rename is logged, and is not evicted. -/
theorem evicted_unless_abandoned_of_rename : ∃ (b : App) (w : World) (log : List Event),
    b.gate.cache.slots = ∅ ∧ World.Reaches ⟨b, [], []⟩ ⟨b, [], []⟩ ∧
    World.Reaches ⟨b, [], []⟩ w ∧ w.log = .renamed (documentPath "ada") 1 :: log ∧
    (∀ m, b.shelf.find "ada" = .ok (some m) →
      w.app.shelf.find "ada" = .ok (some m) ∨ ∃ later place earlier,
        w.log = later ++ .renamed (documentPath "ada") place :: earlier ∧ [] <:+ earlier) ∧
    (∀ later place earlier, w.log = later ++ .renamed (documentPath "ada") place :: earlier →
      .evicted "ada" ∈ later ∨ ∃ rest, EvictionDue "ada" rest ∧
        (w.tasks[place]? = some (.serving rest) ∨ w.tasks[place]? = some (.abandoned rest))) ∧
    ((∀ later place earlier, w.log = later ++ .renamed (documentPath "ada") place :: earlier →
        .evicted "ada" ∈ later) →
      ∀ slot, w.app.gate.cache.slots["ada"]? = some slot → Backed w "ada" slot) := by
  obtain ⟨b, w, _, log, _, _, empty, run, logged, _⟩ := reaches_abandoned
  exact ⟨b, w, log, empty, .refl, run, logged, evicted_unless_abandoned empty .refl run "ada"⟩

/-- A change that is abandoned at its rename replaces the hash, and no eviction comes: the entry
that was verified against the old hash stays, and lets in whoever gives the old password. -/
theorem abandoned_change_unevicted : ∃ b w place left later earlier slot,
    (App.costing lowestCost).register (App.adaRegistration "Lovelace#1") =
        (b, .ok (App.adaMember lowestCost "Lovelace#1")) ∧
      World.Reaches ⟨b, [], []⟩ w ∧
      w.log = later ++ .renamed (documentPath "ada") place :: earlier ∧ .evicted "ada" ∉ later ∧
      w.tasks[place]? = some (.abandoned left) ∧
      w.app.shelf.find "ada" = .ok (some (App.adaMember lowestCost "Lovelace#2")) ∧
      w.app.rules.hasher.verify (App.adaMember lowestCost "Lovelace#2").passwordHash "Lovelace#1" =
        false ∧
      w.app.gate.cache.slots["ada"]? = some slot ∧
      slot.credential.digest = passwordDigest "Lovelace#1" ∧
      (w.app.authenticate "ada" "Lovelace#1").2 =
        .ok (App.adaMember lowestCost "Lovelace#1").identity := by
  obtain ⟨b, w, left, log, slot, register, _, run, logged, stopped, stored, resident, digest,
    accepted⟩ := reaches_abandoned
  obtain ⟨h1, h2, _⟩ := head_output
  exact ⟨b, w, 1, left, [], log, slot, register, run, logged, List.not_mem_nil, stopped, stored,
    verify_eq_false "Lovelace#2" "Lovelace#1" (by rw [h1, h2]; decide) _, resident, digest,
    accepted⟩

end Abandonment

end MemberAuth
