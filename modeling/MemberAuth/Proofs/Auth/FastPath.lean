import MemberAuth.Proofs.Auth.Decision
import MemberAuth.Proofs.Cache.Tenure

/-!
# The fast path

Credentials that the verifier has confirmed are let in again without asking it, for the time to live
and as long as fewer other login ids are written than there is room for. Whatever else goes on does
not count: further decisions of the same member and of others, in any order and nested in any way,
purges, evictions of others, wrong passwords and a verifier that does not answer.
-/
namespace MemberAuth

namespace Gate

/-- The key that an act writes, if it writes. -/
def writes? (g : Gate) (act : Act) : Option String :=
  act.call?.bind fun call => call.writes? g.cache.epoch

/-- The keys that some acts write. -/
def written (g : Gate) : List (Nat × Act) → List String
  | [] => []
  | (now, act) :: rest => (g.writes? act).toList ++ (g.act now act).written rest

/-- A gate with room for an entry and for whatever is written behind it. -/
structure Retains (g : Gate) (e : CacheEntry) (others : Finset String) : Prop where
  wellFormed : g.cache.WellFormed
  stands : g.cache.ledger.Stands e others
  room : others.card < g.cache.capacity

variable {g : Gate} {e : CacheEntry} {others : Finset String} {now : Nat}

theorem fixed_act (h : g.cache.WellFormed) (now : Nat) (act : Act) :
    (g.act now act).cache.ttl = g.cache.ttl ∧ (g.act now act).cache.capacity = g.cache.capacity := by
  have ledger := ledger_act h now act
  have ttl := congrArg Ledger.ttl ledger
  have capacity := congrArg Ledger.capacity ledger
  cases called : act.call? with
  | none =>
    rw [called] at ttl capacity
    exact ⟨ttl, capacity⟩
  | some call =>
    rw [called] at ttl capacity
    obtain ⟨same, same'⟩ := g.cache.ledger.answer_fixed now call
    exact ⟨ttl.trans same, capacity.trans same'⟩

theorem fixed_after (h : g.cache.WellFormed) (acts : List (Nat × Act)) :
    (g.after acts).cache.ttl = g.cache.ttl ∧ (g.after acts).cache.capacity = g.cache.capacity := by
  induction acts generalizing g with
  | nil => exact ⟨rfl, rfl⟩
  | cons head rest ih =>
    obtain ⟨ttl, capacity⟩ := fixed_act h head.1 head.2
    obtain ⟨ttl', capacity'⟩ := ih (wellFormed_act h head.1 head.2)
    exact ⟨ttl'.trans ttl, capacity'.trans capacity⟩

namespace Retains

/-- One act, in the time to live, that neither evicts nor writes the key and writes no key beyond
the others. -/
theorem act (h : g.Retains e others) {act : Act} (young : now - e.insertedAt < g.cache.ttl)
    (spared : act ≠ .ask (.evict e.key)) (apart : g.writes? act ≠ some e.key)
    (known : ∀ key, g.writes? act = some key → key ∈ others) :
    (g.act now act).Retains e others := by
  obtain ⟨_, capacity⟩ := fixed_act h.wellFormed now act
  refine ⟨wellFormed_act h.wellFormed now act, ?_, by rw [capacity]; exact h.room⟩
  rw [ledger_act h.wellFormed now act]
  rw [writes?] at apart known
  cases called : act.call? with
  | none => exact h.stands
  | some call =>
    rw [called] at apart known
    refine h.stands.answer h.room young ?_ apart known
    intro evicts
    exact spared (Act.eq_of_call?_evict (called.trans (congrArg some evicts)))

theorem after (h : g.Retains e others) {acts : List (Nat × Act)}
    (young : ∀ entry ∈ acts, entry.1 - e.insertedAt < g.cache.ttl)
    (spared : ∀ entry ∈ acts, entry.2 ≠ .ask (.evict e.key)) (apart : e.key ∉ g.written acts)
    (known : ∀ key ∈ g.written acts, key ∈ others) : (g.after acts).Retains e others := by
  induction acts generalizing g with
  | nil => exact h
  | cons head rest ih =>
    obtain ⟨time, act⟩ := head
    rw [written, List.mem_append, not_or] at apart
    have first := h.act (young _ List.mem_cons_self) (spared _ List.mem_cons_self)
      (fun same => apart.1 (Option.mem_toList.mpr same))
      (fun key writes => known key (List.mem_append_left _ (Option.mem_toList.mpr writes)))
    apply ih first
    · intro entry mem
      rw [(fixed_act h.wellFormed time act).1]
      exact young entry (List.mem_cons_of_mem _ mem)
    · intro entry mem
      exact spared entry (List.mem_cons_of_mem _ mem)
    · exact apart.2
    · intro key mem
      exact known key (List.mem_append_right _ mem)

/-- In its time to live, a look-up finds the entry. -/
theorem lookup (h : g.Retains e others) (young : now - e.insertedAt < g.cache.ttl) :
    ∃ slot, g.cache.lookup now e.key = .live slot ∧ slot.credential = e.credential := by
  obtain ⟨slot, resident, same⟩ := h.wellFormed.toLogged.mem_entries.mp h.stands.mem
  have inserted : slot.insertedAt = e.insertedAt := congrArg CacheEntry.insertedAt same
  have fresh : g.cache.isExpired now slot = false := by
    rw [Cache.isExpired, inserted]
    exact decide_eq_false (Nat.not_le_of_lt young)
  refine ⟨slot, ?_, congrArg CacheEntry.credential same⟩
  rw [Cache.lookup, resident]
  dsimp only
  rw [fresh]
  rfl

end Retains

/-- A gate at which the verifier has just confirmed credentials, in any run, and the write was not
dropped. -/
inductive Confirmed (ttl capacity : Nat) (loginId password : String) (who : Identity) (time : Nat) :
    Gate → Prop
  | intro {before during : List (Nat × Act)} {start epoch : Nat} {g : Gate}
    (opened : ((Gate.new ttl capacity).after before).openRequest start loginId password =
      (g, .pending epoch))
    (kept : (g.after during).cache.epoch = epoch) :
    Confirmed ttl capacity loginId password who time
      ((g.after during).closeRequest time loginId password epoch (.ok who)).1

variable {ttl capacity : Nat} {loginId password : String} {who : Identity} {time : Nat}

theorem Confirmed.filled (h : Confirmed ttl capacity loginId password who time g) :
    ¬(Text.allBlank loginId || Text.allBlank password) = true := by
  cases h with
  | intro opened _ => exact (openRequest_pending opened).1

/-- The write that was not dropped is the newest entry. -/
theorem retains_closeRequest (h : g.cache.WellFormed) (room : others.card < g.cache.capacity)
    (time : Nat) (loginId password : String) (who : Identity) :
    Retains (g.closeRequest time loginId password g.cache.epoch (.ok who)).1
      ⟨loginId, ⟨who, passwordDigest password⟩, time⟩ others := by
  have closed := wellFormed_act h time (.closes loginId password g.cache.epoch (.ok who))
  have fixed := fixed_act h time (.closes loginId password g.cache.epoch (.ok who))
  have ledger := ledger_act h time (.closes loginId password g.cache.epoch (.ok who))
  have written : (g.cache.ledger.answer time (.putIfUnchanged loginId
      ⟨who, passwordDigest password⟩ g.cache.epoch)).1 =
      g.cache.ledger.write time loginId ⟨who, passwordDigest password⟩ :=
    congrArg Prod.fst (if_pos rfl)
  refine ⟨closed, ?_, fixed.2.symm ▸ room⟩
  exact (ledger.trans written) ▸ Ledger.stands_write h.toLogged.nodup_keys room time loginId _

theorem Confirmed.retains (h : Confirmed ttl capacity loginId password who time g)
    (room : others.card < capacity) :
    g.Retains ⟨loginId, ⟨who, passwordDigest password⟩, time⟩ others ∧ g.cache.ttl = ttl := by
  cases h with
  | @intro before during start epoch first opened kept =>
    have new := Cache.wellFormed_new ttl capacity
    have steps : first.after during =
        (Gate.new ttl capacity).after (before ++ (start, .opens loginId password) :: during) := by
      rw [after_append, after, act, opened]
    have wellFormed : (first.after during).cache.WellFormed := by
      rw [steps]
      exact wellFormed_after new _
    have fixed : (first.after during).cache.ttl = ttl ∧
        (first.after during).cache.capacity = max capacity 1 := by
      rw [steps]
      exact fixed_after new _
    have enough : others.card < (first.after during).cache.capacity := by
      rw [fixed.2]
      exact Nat.lt_of_lt_of_le room (Nat.le_max_left capacity 1)
    subst kept
    refine ⟨retains_closeRequest wellFormed enough time loginId password who, ?_⟩
    exact (fixed_act wellFormed time (.closes loginId password _ (.ok who))).1.trans fixed.1

/-- What follows a confirmed decision in its time to live leaves it on the fast path. -/
theorem Confirmed.decided (h : Confirmed ttl capacity loginId password who time g)
    {later : List (Nat × Act)} {now : Nat} (by_now : ∀ entry ∈ later, entry.1 ≤ now)
    (young : now - time < ttl) (spared : ∀ entry ∈ later, entry.2 ≠ .ask (.evict loginId))
    (apart : loginId ∉ g.written later) (few : (g.written later).toFinset.card < capacity) :
    (g.after later).openRequest now loginId password =
      ((g.after later).count .cacheHit, .decided (.ok who)) := by
  obtain ⟨first, ttl⟩ := h.retains few
  have last : (g.after later).Retains ⟨loginId, ⟨who, passwordDigest password⟩, time⟩
      (g.written later).toFinset := by
    refine first.after (fun entry mem => ?_) spared apart fun key mem => List.mem_toFinset.mpr mem
    have := by_now entry mem
    rw [ttl]
    dsimp only
    omega
  have lasting : now - time < (g.after later).cache.ttl := by
    rw [(fixed_after first.wellFormed later).1, ttl]
    exact young
  obtain ⟨slot, live, same⟩ := last.lookup lasting
  rw [openRequest_of_live h.filled live (congrArg Credential.digest same), same]

end Gate

namespace Auth

open Gate

/-- Credentials that were confirmed and written are let in without the verifier, for the time to
live, after any acts that neither evict nor write the login id and that write fewer other login ids
than there is room for. -/
theorem fast_path_kept {ttl capacity : Nat} {loginId password : String} {who : Identity}
    {time : Nat} {g : Gate} (confirmed : Confirmed ttl capacity loginId password who time g)
    {later : List (Nat × Act)} {s : State} (here : s.gate = g.after later)
    (by_now : ∀ entry ∈ later, entry.1 ≤ s.now) (young : s.now - time < ttl)
    (spared : ∀ entry ∈ later, entry.2 ≠ .ask (.evict loginId))
    (apart : loginId ∉ g.written later) (few : (g.written later).toFinset.card < capacity)
    (v : Verifier) (during : List Step) :
    Step.runWith v s (.authenticate loginId password during) =
      ({ s with gate := s.gate.count .cacheHit }, .decided (.ok who) none) := by
  have decided := confirmed.decided by_now young spared apart few
  rw [← here] at decided
  exact Step.runWith_of_decided decided

/-- The later acts of a small run: a wrong password while the verifier does not answer, and another
login id that comes and goes. -/
def bystanders : List (Nat × Act) :=
  [(6, .opens "ada" "Lovelace#2"), (6, .ask (.put "bob" ⟨⟨2, "bob"⟩, ""⟩)), (7, .ask .purge),
    (8, .closes "ada" "Lovelace#2" 0 (.error (.unavailable "IO error"))), (8, .ask (.evict "bob"))]

/-- With room for two entries, a confirmed decision stays on the fast path through that run. -/
theorem fast_path_kept_beside_bystanders : ∃ g,
    Confirmed 1000 2 "ada" "Lovelace#1" ⟨1, "ada"⟩ 5 g ∧ g.written bystanders = ["bob"] ∧
      ∀ (v : Verifier) (during : List Step),
        Step.runWith v { State.new 1000 2 with gate := g.after bystanders, now := 9 }
            (.authenticate "ada" "Lovelace#1" during) =
          ({ State.new 1000 2 with gate := (g.after bystanders).count .cacheHit, now := 9 },
            .decided (.ok ⟨1, "ada"⟩) none) := by
  have filled : ¬(Text.allBlank "ada" || Text.allBlank "Lovelace#1") = true := by decide
  have opened : ((Gate.new 1000 2).after []).openRequest 0 "ada" "Lovelace#1" =
      ((Gate.new 1000 2).count .cacheMiss, .pending 0) := by
    apply openRequest_of_miss filled
    intro slot live
    cases live
  have kept : (((Gate.new 1000 2).count .cacheMiss).after []).cache.epoch = 0 := rfl
  obtain ⟨g, confirmed⟩ : ∃ g, Confirmed 1000 2 "ada" "Lovelace#1" ⟨1, "ada"⟩ 5 g :=
    ⟨_, .intro opened kept⟩
  have written : g.written bystanders = ["bob"] := rfl
  refine ⟨g, confirmed, written, ?_⟩
  intro v during
  have by_now : ∀ entry ∈ bystanders, entry.1 ≤ 9 := by simp [bystanders]
  have spared : ∀ entry ∈ bystanders, entry.2 ≠ .ask (.evict "ada") := by simp [bystanders]
  have apart : "ada" ∉ g.written bystanders := by
    rw [written]
    decide
  have few : (g.written bystanders).toFinset.card < 2 := by
    rw [written]
    decide
  have young : 9 - 5 < 1000 := by decide
  -- so that the run is not evaluated
  generalize reached : g.after bystanders = last
  exact fast_path_kept (s := { State.new 1000 2 with gate := last, now := 9 })
    confirmed reached.symm by_now young spared apart few v during

end Auth

end MemberAuth
