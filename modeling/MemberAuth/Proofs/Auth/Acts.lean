import MemberAuth.Proofs.Cache.Ledger

/-!
# What is done at the gate

Calls of the cache and the two steps of decisions, as acts that can follow one another in any order.
Each act is at most one call of the cache, so that it does to the cache what the call does.
-/
namespace MemberAuth

namespace Gate

variable {g g' : Gate} {now epoch : Nat} {loginId password : String}

theorem get_of_live {slot : Slot} (live : g.cache.lookup now loginId = .live slot) :
    g.get now loginId = (g, some slot) := by
  rw [get, live]

/-- A live entry with the digest of the password decides at once. -/
theorem openRequest_of_live (filled : ¬(Text.allBlank loginId || Text.allBlank password) = true)
    {slot : Slot} (live : g.cache.lookup now loginId = .live slot)
    (same : slot.credential.digest = passwordDigest password) :
    g.openRequest now loginId password =
      (g.count .cacheHit, .decided (.ok slot.credential.identity)) := by
  rw [openRequest, if_neg filled, get_of_live live]
  exact if_pos same

/-- Without such an entry the decision is left open, and an expired entry is gone. -/
theorem openRequest_of_miss (filled : ¬(Text.allBlank loginId || Text.allBlank password) = true)
    (miss : ∀ slot, g.cache.lookup now loginId = .live slot →
      slot.credential.digest ≠ passwordDigest password) :
    g.openRequest now loginId password =
      ((g.get now loginId).1.count .cacheMiss, .pending g.cache.epoch) := by
  have epoch := (g.prunes_get now loginId).epoch
  rw [openRequest, if_neg filled]
  cases found : g.cache.lookup now loginId with
  | live slot =>
    rw [get_of_live found]
    exact if_neg (miss slot found)
  | absent =>
    rw [get, found]
  | expired =>
    rw [get, found] at epoch ⊢
    exact congrArg (fun n => (_, Opening.pending n)) epoch

theorem openRequest_of_absent (now : Nat)
    (filled : ¬(Text.allBlank loginId || Text.allBlank password) = true)
    (absent : g.cache.slots[loginId]? = none) :
    g.openRequest now loginId password = (g.count .cacheMiss, .pending g.cache.epoch) := by
  have found : g.cache.lookup now loginId = .absent := by rw [Cache.lookup, absent]
  have got : (g.get now loginId).1 = g := by rw [get, found]
  rw [openRequest_of_miss filled, got]
  intro slot live
  rw [found] at live
  cases live

/-- What is left open was a miss. -/
theorem openRequest_pending
    (opened : g.openRequest now loginId password = (g', .pending epoch)) :
    ¬(Text.allBlank loginId || Text.allBlank password) = true ∧
      (∀ slot, g.cache.lookup now loginId = .live slot →
        slot.credential.digest ≠ passwordDigest password) ∧
      g' = (g.get now loginId).1.count .cacheMiss ∧ epoch = g.cache.epoch := by
  have filled : ¬(Text.allBlank loginId || Text.allBlank password) = true := by
    intro blank
    rw [openRequest_of_blank _ _ blank] at opened
    cases opened
  have miss : ∀ slot, g.cache.lookup now loginId = .live slot →
      slot.credential.digest ≠ passwordDigest password := by
    intro slot live same
    rw [openRequest_of_live filled live same] at opened
    cases opened
  rw [openRequest_of_miss filled miss] at opened
  cases opened
  exact ⟨filled, miss, rfl, rfl⟩

/-- The result of a decision is what the verifier says. -/
theorem closeRequest_result (g : Gate) (now epoch : Nat) (loginId password : String)
    (verdict : Except VerifyFailure Identity) :
    (g.closeRequest now loginId password epoch verdict).2 = match verdict with
      | .ok who => .ok who
      | .error _ => .error .authenticationFailed := by
  cases verdict with
  | ok who => rfl
  | error e => rfl

/-- What a decision has just written decides the next request. -/
theorem openRequest_of_closeRequest (h : g.cache.WellFormed) (lives : 0 < g.cache.ttl) (now : Nat)
    (filled : ¬(Text.allBlank loginId || Text.allBlank password) = true) (who : Identity) :
    ∃ gate, (g.closeRequest now loginId password g.cache.epoch (.ok who)).1.openRequest now loginId
      password = (gate, .decided (.ok who)) := by
  have cache := g.cache_closeRequest_ok now g.cache.epoch loginId password who
  rw [if_pos rfl] at cache
  generalize (g.closeRequest now loginId password g.cache.epoch (.ok who)).1 = closed at cache ⊢
  obtain ⟨slot, resident, credential, written⟩ :=
    h.put_resident now loginId ⟨who, passwordDigest password⟩
  have ttl : closed.cache.ttl = g.cache.ttl := by rw [cache, Cache.ttl_put]
  have live : closed.cache.lookup now loginId = .live slot := by
    rw [← cache] at resident
    have young : closed.cache.isExpired now slot = false := by
      rw [Cache.isExpired, ttl, written, Nat.sub_self]
      exact decide_eq_false (by omega)
    rw [Cache.lookup, resident]
    simp only [young, Bool.false_eq_true, if_false]
  have opened := openRequest_of_live filled live (congrArg Credential.digest credential)
  rw [credential] at opened
  exact ⟨_, opened⟩

/-- A call of the cache, or one of the two steps of a decision. -/
inductive Act
  | ask (call : CacheCall)
  | opens (loginId password : String)
  | closes (loginId password : String) (epoch : Nat) (verdict : Except VerifyFailure Identity)

namespace Act

/-- The call of the cache that the act is. -/
def call? : Act → Option CacheCall
  | ask call => some call
  | opens loginId password =>
    if Text.allBlank loginId || Text.allBlank password then none else some (.get loginId)
  | closes loginId password epoch (.ok who) =>
    some (.putIfUnchanged loginId ⟨who, passwordDigest password⟩ epoch)
  | closes _ _ _ (.error _) => none

/-- No step of a decision is an eviction. -/
theorem eq_of_call?_evict {act : Act} {key : String} (h : act.call? = some (.evict key)) :
    act = .ask (.evict key) := by
  cases act with
  | ask call => exact congrArg ask (Option.some.inj h)
  | opens loginId password =>
    rw [call?] at h
    split at h
    · cases h
    · cases h
  | closes loginId password epoch verdict =>
    cases verdict with
    | ok who => cases h
    | error e => cases h

def isEviction : Act → Bool
  | ask (.evict _) => true
  | _ => false

/-- Whether the act is the end of a decision for which the verifier was called. -/
def isAnswer : Act → Bool
  | closes _ _ _ _ => true
  | _ => false

end Act

def act (g : Gate) (now : Nat) : Act → Gate
  | .ask call => (g.answer now call).1
  | .opens loginId password => (g.openRequest now loginId password).1
  | .closes loginId password epoch verdict =>
    (g.closeRequest now loginId password epoch verdict).1

/-- The gate after some acts, each at its own time. -/
def after (g : Gate) : List (Nat × Act) → Gate
  | [] => g
  | (now, act) :: rest => (g.act now act).after rest

theorem after_append (g : Gate) (acts rest : List (Nat × Act)) :
    g.after (acts ++ rest) = (g.after acts).after rest := by
  induction acts generalizing g with
  | nil => rfl
  | cons head acts ih => exact ih _

theorem cache_openRequest (g : Gate) (now : Nat)
    (filled : ¬(Text.allBlank loginId || Text.allBlank password) = true) :
    (g.openRequest now loginId password).1.cache = (g.get now loginId).1.cache := by
  by_cases hit : ∃ slot, g.cache.lookup now loginId = .live slot ∧
      slot.credential.digest = passwordDigest password
  · obtain ⟨slot, live, same⟩ := hit
    rw [openRequest_of_live filled live same, get_of_live live]
    rfl
  · have opened := openRequest_of_miss filled fun slot live same => hit ⟨slot, live, same⟩
    rw [opened]
    rfl

theorem cache_act (g : Gate) (now : Nat) (act : Act) :
    (g.act now act).cache = match act.call? with
      | none => g.cache
      | some call => (g.answer now call).1.cache := by
  cases act with
  | ask call => rfl
  | opens loginId password =>
    by_cases blank : (Text.allBlank loginId || Text.allBlank password) = true
    · rw [Act.call?, if_pos blank]
      exact congrArg (fun opened : Gate × Opening => opened.1.cache)
        (g.openRequest_of_blank now blank)
    · rw [Act.call?, if_neg blank]
      exact g.cache_openRequest now blank
  | closes loginId password epoch verdict =>
    cases verdict with
    | error e => rfl
    | ok who =>
      have closed := g.cache_closeRequest_ok now epoch loginId password who
      rw [← g.cache_putIfUnchanged now epoch loginId] at closed
      exact closed

theorem wellFormed_act (h : g.cache.WellFormed) (now : Nat) (act : Act) :
    (g.act now act).cache.WellFormed := by
  rw [g.cache_act now act]
  cases act.call? with
  | none => exact h
  | some call => exact (agrees h now call).wellFormed

theorem wellFormed_after (h : g.cache.WellFormed) (acts : List (Nat × Act)) :
    (g.after acts).cache.WellFormed := by
  induction acts generalizing g with
  | nil => exact h
  | cons head rest ih => exact ih (wellFormed_act h head.1 head.2)

/-- The ledger goes along with every act that is a call. -/
theorem ledger_act (h : g.cache.WellFormed) (now : Nat) (act : Act) :
    (g.act now act).cache.ledger = match act.call? with
      | none => g.cache.ledger
      | some call => (g.cache.ledger.answer now call).1 := by
  rw [g.cache_act now act]
  cases act.call? with
  | none => rfl
  | some call => exact (agrees h now call).ledger

section Epochs

/-- The epoch counts the evictions, and nothing else. -/
theorem epoch_answer (g : Gate) (now : Nat) (call : CacheCall) :
    (g.answer now call).1.cache.epoch =
      g.cache.epoch + if (Act.ask call).isEviction then 1 else 0 := by
  cases call with
  | put key credential => exact g.cache.epoch_put now key credential
  | putIfUnchanged key credential epoch =>
    have written := g.cache_putIfUnchanged now epoch key credential
    refine (congrArg Cache.epoch written).trans ?_
    split
    · exact g.cache.epoch_put now key credential
    · rfl
  | get key => exact (g.prunes_get now key).epoch
  | evict key => exact congrArg Cache.epoch (g.cache_evict key)
  | purge => exact (congrArg Cache.epoch (g.cache_purge now)).trans rfl
  | size => rfl
  | isEmpty => rfl
  | epoch => rfl

theorem epoch_act (g : Gate) (now : Nat) (act : Act) :
    (g.act now act).cache.epoch = g.cache.epoch + if act.isEviction then 1 else 0 := by
  cases act with
  | ask call => exact g.epoch_answer now call
  | opens loginId password => exact (g.prunes_openRequest now loginId password).epoch
  | closes loginId password epoch verdict =>
    exact g.epoch_closeRequest now epoch loginId password verdict

theorem epoch_after (g : Gate) (acts : List (Nat × Act)) :
    (g.after acts).cache.epoch = g.cache.epoch + acts.countP (·.2.isEviction) := by
  induction acts generalizing g with
  | nil => rfl
  | cons head rest ih =>
    obtain ⟨now, act⟩ := head
    rw [after, ih, epoch_act, List.countP_cons]
    dsimp only
    omega

/-- An epoch that has not moved tells that nothing was evicted. -/
theorem epoch_after_eq_iff {acts : List (Nat × Act)} :
    (g.after acts).cache.epoch = g.cache.epoch ↔ ∀ entry ∈ acts, entry.2.isEviction = false := by
  rw [epoch_after, Nat.add_eq_left, List.countP_eq_zero]
  simp only [Bool.not_eq_true]

end Epochs

end Gate

end MemberAuth
