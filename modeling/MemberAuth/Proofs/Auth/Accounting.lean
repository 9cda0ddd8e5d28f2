import MemberAuth.Proofs.Auth.Moments
import MemberAuth.Proofs.Cache.Turnover

/-!
# What is counted

Every decision with both credentials is a hit or a miss, every miss is a question to the verifier,
and every question ends as a success or a failure of the slow path unless it is still open. Every
entry that has come is still resident, has been counted as it left, or has expired. The gauge never
lags behind the number of entries. All of this holds at every moment of every run, also while
decisions wait.
-/
namespace MemberAuth

namespace Metrics

/-- The decisions that got as far as the cache. -/
def decided (m : Metrics) : Nat :=
  m.cacheHit + m.cacheMiss

/-- The questions to the verifier that have their answer. -/
def answered (m : Metrics) : Nat :=
  m.slowPathSuccess + m.slowPathFailure

end Metrics

namespace Gate

variable {g : Gate} {now : Nat}

/-- Whether an act starts a decision with both credentials. -/
def Act.isFilled : Act → Bool
  | opens loginId password => !(Text.allBlank loginId || Text.allBlank password)
  | _ => false

/-- The gate after the call that an act is, if it is one. -/
def called (g : Gate) (now : Nat) : Option CacheCall → Gate
  | none => g
  | some call => (g.answer now call).1

/-- The later gate differs only in what is counted about decisions. -/
structure CountsOnly (g g' : Gate) : Prop where
  cache : g'.cache = g.cache
  removals : g'.metrics.removals = g.metrics.removals
  entries : g'.metrics.entries = g.metrics.entries

/-- Beginning a decision with both credentials looks the login id up, and counts a hit or a miss. -/
theorem openRequest_gate (g : Gate) (now : Nat) {loginId password : String}
    (filled : ¬(Text.allBlank loginId || Text.allBlank password) = true) :
    (g.openRequest now loginId password).1 = (g.get now loginId).1.count .cacheHit ∨
      (g.openRequest now loginId password).1 = (g.get now loginId).1.count .cacheMiss := by
  by_cases hit : ∃ slot, g.cache.lookup now loginId = .live slot ∧
      slot.credential.digest = passwordDigest password
  · obtain ⟨slot, live, same⟩ := hit
    rw [openRequest_of_live filled live same, get_of_live live]
    exact Or.inl rfl
  · rw [openRequest_of_miss filled fun slot live same => hit ⟨slot, live, same⟩]
    exact Or.inr rfl

theorem countsOnly_act (g : Gate) (now : Nat) (act : Act) :
    (g.called now act.call?).CountsOnly (g.act now act) := by
  cases act with
  | ask call => exact ⟨rfl, rfl, rfl⟩
  | opens loginId password =>
    rw [Act.call?]
    by_cases blank : (Text.allBlank loginId || Text.allBlank password) = true
    · rw [if_pos blank, act, g.openRequest_of_blank now blank]
      exact ⟨rfl, rfl, rfl⟩
    · rw [if_neg blank, act]
      rcases g.openRequest_gate now blank with hit | miss
      · rw [hit]
        exact ⟨rfl, rfl, rfl⟩
      · rw [miss]
        exact ⟨rfl, rfl, rfl⟩
  | closes loginId password epoch verdict =>
    cases verdict with
    | error e => exact ⟨rfl, rfl, rfl⟩
    | ok who =>
      change CountsOnly (g.putIfUnchanged now loginId _ epoch).1
        ((g.count .slowPathSuccess).putIfUnchanged now loginId _ epoch).1
      rw [putIfUnchanged, putIfUnchanged, cache_count]
      split
      · exact ⟨rfl, rfl, rfl⟩
      · exact ⟨rfl, rfl, rfl⟩

section Decisions

theorem decided_answer (g : Gate) (now : Nat) (call : CacheCall) :
    (g.answer now call).1.metrics.decided = g.metrics.decided := by
  have same := congrArg Metrics.decided (g.withoutResidency_answer now call)
  exact same

theorem answered_answer (g : Gate) (now : Nat) (call : CacheCall) :
    (g.answer now call).1.metrics.answered = g.metrics.answered := by
  have same := congrArg Metrics.answered (g.withoutResidency_answer now call)
  exact same

theorem cacheMiss_answer (g : Gate) (now : Nat) (call : CacheCall) :
    (g.answer now call).1.metrics.cacheMiss = g.metrics.cacheMiss := by
  have same := congrArg Metrics.cacheMiss (g.withoutResidency_answer now call)
  exact same

/-- A write that a decision ends with counts as nothing but the success. -/
theorem withoutResidency_closeRequest_ok (g : Gate) (now epoch : Nat) (loginId password : String)
    (who : Identity) :
    (g.closeRequest now loginId password epoch (.ok who)).1.metrics.withoutResidency =
      (g.count .slowPathSuccess).metrics.withoutResidency :=
  (g.count .slowPathSuccess).withoutResidency_answer now
    (.putIfUnchanged loginId ⟨who, passwordDigest password⟩ epoch)

theorem decided_act (g : Gate) (now : Nat) (act : Act) :
    (g.act now act).metrics.decided = g.metrics.decided + if act.isFilled then 1 else 0 := by
  cases act with
  | ask call => exact g.decided_answer now call
  | opens loginId password =>
    rw [act, Act.isFilled]
    by_cases blank : (Text.allBlank loginId || Text.allBlank password) = true
    · rw [g.openRequest_of_blank now blank, blank]
      rfl
    · have looked := g.decided_answer now (.get loginId)
      have looked : (g.get now loginId).1.metrics.decided = g.metrics.decided := looked
      rw [Bool.not_eq_true] at blank
      rw [blank, ← looked]
      rcases g.openRequest_gate now (Bool.eq_false_iff.mp blank) with hit | miss
      · rw [hit]
        exact Nat.add_right_comm ..
      · rw [miss]
        rfl
  | closes loginId password epoch verdict =>
    cases verdict with
    | error e => rfl
    | ok who =>
      have closed := g.withoutResidency_closeRequest_ok now epoch loginId password who
      have closed := congrArg Metrics.decided closed
      exact closed

theorem answered_act (g : Gate) (now : Nat) (act : Act) :
    (g.act now act).metrics.answered = g.metrics.answered + if act.isAnswer then 1 else 0 := by
  cases act with
  | ask call => exact g.answered_answer now call
  | opens loginId password =>
    rw [act]
    by_cases blank : (Text.allBlank loginId || Text.allBlank password) = true
    · rw [g.openRequest_of_blank now blank]
      rfl
    · have looked := g.answered_answer now (.get loginId)
      have looked : (g.get now loginId).1.metrics.answered = g.metrics.answered := looked
      rw [← looked]
      rcases g.openRequest_gate now blank with hit | miss
      · rw [hit]
        rfl
      · rw [miss]
        rfl
  | closes loginId password epoch verdict =>
    cases verdict with
    | error e => rfl
    | ok who =>
      have closed := g.withoutResidency_closeRequest_ok now epoch loginId password who
      exact (congrArg Metrics.answered closed).trans (Nat.add_right_comm ..)

/-- What each act counts or leaves, a run of acts counts together. -/
theorem counts_after {measure : Metrics → Nat} {counted : Act → Bool}
    (step : ∀ (g : Gate) (now : Nat) (act : Act),
      measure (g.act now act).metrics = measure g.metrics + if counted act then 1 else 0)
    (g : Gate) (acts : List (Nat × Act)) :
    measure (g.after acts).metrics =
      measure g.metrics + acts.countP fun entry => counted entry.2 := by
  induction acts generalizing g with
  | nil => rfl
  | cons head rest ih =>
    obtain ⟨now, act⟩ := head
    rw [after, ih, step, List.countP_cons]
    dsimp only
    omega

/-- A decision that needs no question is no miss. -/
theorem cacheMiss_of_decided {g' : Gate} {loginId password : String}
    {result : Except AuthFailure Identity}
    (opened : g.openRequest now loginId password = (g', .decided result)) :
    g'.metrics.cacheMiss = g.metrics.cacheMiss := by
  by_cases blank : (Text.allBlank loginId || Text.allBlank password) = true
  · rw [g.openRequest_of_blank now blank] at opened
    cases opened
    rfl
  by_cases hit : ∃ slot, g.cache.lookup now loginId = .live slot ∧
      slot.credential.digest = passwordDigest password
  · obtain ⟨slot, live, same⟩ := hit
    rw [openRequest_of_live blank live same] at opened
    cases opened
    rfl
  · rw [openRequest_of_miss blank fun slot live same => hit ⟨slot, live, same⟩] at opened
    cases opened

theorem cacheMiss_after_asks {acts : List (Nat × Act)}
    (asks : ∀ entry ∈ acts, ∃ call, entry.2 = .ask call) :
    (g.after acts).metrics.cacheMiss = g.metrics.cacheMiss := by
  induction acts generalizing g with
  | nil => rfl
  | cons head rest ih =>
    obtain ⟨now, act⟩ := head
    obtain ⟨call, rfl⟩ := asks _ List.mem_cons_self
    rw [after, ih fun entry mem => asks entry (List.mem_cons_of_mem _ mem)]
    exact g.cacheMiss_answer now call

end Decisions

section Entries

/-- How many entries an act makes that had none at their key, expired or not. -/
def freshBy (g : Gate) (act : Act) : Nat :=
  match act.call? with
  | none => 0
  | some call => g.cache.freshBy call

/-- How many entries an act drops because they have expired. -/
def lapsedBy (g : Gate) (now : Nat) (act : Act) : Nat :=
  match act.call? with
  | none => 0
  | some call => g.cache.lapsedBy now call

/-- The writes of keys that had no entry, in some acts. -/
def freshWrites (g : Gate) : List (Nat × Act) → Nat
  | [] => 0
  | (now, act) :: rest => g.freshBy act + (g.act now act).freshWrites rest

/-- The entries that some acts drop because they have expired. -/
def lapses (g : Gate) : List (Nat × Act) → Nat
  | [] => 0
  | (now, act) :: rest => g.lapsedBy now act + (g.act now act).lapses rest

theorem turnover_act (h : g.cache.WellFormed) (now : Nat) (act : Act) :
    g.cache.size + g.metrics.removals + g.freshBy act =
      (g.act now act).cache.size + (g.act now act).metrics.removals + g.lapsedBy now act := by
  obtain ⟨cache, removals, _⟩ := g.countsOnly_act now act
  rw [cache, removals, freshBy, lapsedBy]
  cases act.call? with
  | none => rfl
  | some call => exact turnover_answer h now call

theorem turnover_after (h : g.cache.WellFormed) (acts : List (Nat × Act)) :
    g.cache.size + g.metrics.removals + g.freshWrites acts =
      (g.after acts).cache.size + (g.after acts).metrics.removals + g.lapses acts := by
  induction acts generalizing g with
  | nil => rfl
  | cons head rest ih =>
    obtain ⟨now, act⟩ := head
    have first := turnover_act h now act
    have later := ih (wellFormed_act h now act)
    rw [freshWrites, lapses, after]
    omega

theorem records_act (g : Gate) (now : Nat) (act : Act) : g.Records (g.act now act) := by
  obtain ⟨cache, _, entries⟩ := g.countsOnly_act now act
  rw [Records, cache, entries]
  cases act.call? with
  | none => exact Records.refl g
  | some call => exact g.records_answer now call

/-- The gauge shows the number of entries, or nothing while there are none. -/
theorem gauge_after (h : g.metrics.entries.getD 0 = g.cache.size) (acts : List (Nat × Act)) :
    (g.after acts).metrics.entries.getD 0 = (g.after acts).cache.size := by
  induction acts generalizing g with
  | nil => exact h
  | cons head rest ih =>
    obtain ⟨now, act⟩ := head
    apply ih
    rcases g.records_act now act with recorded | ⟨entries, size⟩
    · rw [recorded]
      rfl
    · rw [entries, size]
      exact h

/-- A gauge that is not set has never been set. -/
theorem entries_of_after_eq_none {acts : List (Nat × Act)}
    (h : (g.after acts).metrics.entries = none) : g.metrics.entries = none := by
  induction acts generalizing g with
  | nil => exact h
  | cons head rest ih =>
    obtain ⟨now, act⟩ := head
    have unset := ih h
    rcases g.records_act now act with recorded | ⟨entries, _⟩
    · rw [recorded] at unset
      cases unset
    · exact entries.symm.trans unset

/-- As long as the gauge is not set there has never been an entry. -/
theorem size_of_after_eq_none (h : g.metrics.entries.getD 0 = g.cache.size)
    {acts earlier : List (Nat × Act)} (unset : (g.after acts).metrics.entries = none)
    (before : earlier <+: acts) : (g.after earlier).cache.size = 0 := by
  obtain ⟨rest, rfl⟩ := before
  rw [after_append] at unset
  have gauge := gauge_after h earlier
  rw [entries_of_after_eq_none unset] at gauge
  exact gauge.symm

end Entries

end Gate

namespace Auth

open Gate (Act)

/-- A step that is no decision only makes calls of the cache. -/
theorem Step.asks_trace (v : Verifier) (s : State) {step : Step}
    (simple : step.isDecision = false) :
    ∀ entry ∈ step.trace v s, ∃ call, entry.2 = .ask call := by
  have single : ∀ (time : Nat) (call : CacheCall), ∀ entry ∈ [(time, Act.ask call)],
      ∃ call, entry.2 = .ask call := by
    intro time call entry mem
    exact ⟨call, congrArg Prod.snd (List.mem_singleton.mp mem)⟩
  have none : ∀ entry ∈ ([] : List (Nat × Act)), ∃ call, entry.2 = .ask call := by
    intro entry mem
    cases mem
  cases step with
  | authenticate loginId password during => cases simple
  | put key identity password => exact single _ _
  | fill stem first past password =>
    intro entry mem
    rw [Step.trace] at mem
    obtain ⟨number, _, rfl⟩ := List.mem_map.mp mem
    exact ⟨_, rfl⟩
  | putIfUnchanged key identity password ref =>
    rw [Step.trace]
    split
    · exact none
    · exact single _ _
  | get key => exact single _ _
  | matchPassword key password => exact single _ _
  | evict key => exact single _ _
  | purge => exact single _ _
  | advance duration =>
    rw [Step.trace]
    split
    · exact none
    · exact single _ _
  | startPurging interval =>
    rw [Step.trace]
    split
    · exact none
    · exact single _ _
  | _ => exact none

/-- Misses and questions to the verifier are the same in number. -/
theorem asked_invariant :
    Invariant (fun _ => true) fun s => s.gate.metrics.cacheMiss = s.calls := by
  constructor
  case run =>
    intro s step simple _ h
    have leads := Step.leads_runWith State.verdict s step
    rw [Step.runWith_of_simple _ s simple] at leads
    have asks := Step.asks_trace State.verdict s simple
    have unanswered : (step.trace State.verdict s).countP (·.2.isAnswer) = 0 := by
      rw [List.countP_eq_zero]
      intro entry mem answer
      obtain ⟨call, same⟩ := asks entry mem
      rw [same] at answer
      cases answer
    rw [leads.gate, leads.calls, Gate.cacheMiss_after_asks asks, unanswered]
    exact h
  case decided =>
    intro s loginId password gate result opened h
    have kept := Gate.cacheMiss_of_decided opened
    exact kept.trans h
  case asking =>
    intro s loginId h
    have looked := s.gate.cacheMiss_answer s.now (.get loginId)
    exact congrArg (· + 1) (looked.trans h)
  case closed =>
    intro s loginId password epoch verdict h
    cases verdict with
    | error e => exact h
    | ok who =>
      have closed := s.gate.withoutResidency_closeRequest_ok s.now epoch loginId password who
      have closed := congrArg Metrics.cacheMiss closed
      exact closed.trans h

/-- What the counters and the gauge say at a moment, of what has happened from the beginning. -/
structure Accounted (ttl capacity : Nat) (acts : List (Nat × Act)) (waiting : Nat) (t : State) :
    Prop where
  /-- Hits and misses are the decisions with both credentials. -/
  decisions : t.gate.metrics.cacheHit + t.gate.metrics.cacheMiss = acts.countP (·.2.isFilled)
  /-- Misses are the questions to the verifier. -/
  questions : t.gate.metrics.cacheMiss = t.calls
  answers : t.gate.metrics.cacheMiss =
    t.gate.metrics.slowPathSuccess + t.gate.metrics.slowPathFailure + waiting
  /-- Whatever was written to a key without an entry is resident, or counted as it left, or has
  expired and was dropped. -/
  entries : (Gate.new ttl capacity).freshWrites acts =
    t.gate.cache.size + t.gate.metrics.cacheEvicted + t.gate.metrics.capacityEvicted +
      (Gate.new ttl capacity).lapses acts
  gauge : ∀ shown, t.gate.metrics.entries = some shown → shown = t.gate.cache.size
  /-- Nothing has ever been resident as long as the gauge is not set. -/
  unset : t.gate.metrics.entries = none →
    ∀ earlier, earlier <+: acts → ((Gate.new ttl capacity).after earlier).cache.size = 0

/-- Nothing that happens escapes the counters and the gauge. -/
theorem counters_account {v : Verifier} {ttl capacity : Nat} {steps : List Step}
    {acts : List (Nat × Act)} {waiting : Nat} {t : State}
    (moment : Moment v (.new ttl capacity) steps acts waiting t) :
    Accounted ttl capacity acts waiting t := by
  obtain ⟨gate, calls⟩ := moment.leads
  have gate : t.gate = (Gate.new ttl capacity).after acts := gate
  have asked : t.gate.metrics.cacheMiss = t.calls :=
    asked_invariant.moment moment (Step.onlyAll_true steps) rfl
  have new : (Gate.new ttl capacity).metrics.entries.getD 0 = (Gate.new ttl capacity).cache.size :=
    rfl
  constructor
  case decisions =>
    have decided := Gate.counts_after Gate.decided_act (.new ttl capacity) acts
    rw [← gate] at decided
    exact decided.trans (Nat.zero_add _)
  case questions => exact asked
  case answers =>
    have answered := Gate.counts_after Gate.answered_act (.new ttl capacity) acts
    rw [← gate] at answered
    rw [asked, calls]
    exact congrArg (· + waiting) answered.symm
  case entries =>
    have empty : (Gate.new ttl capacity).cache.WellFormed := Cache.wellFormed_new ttl capacity
    have turnover := Gate.turnover_after empty acts
    rw [← gate] at turnover
    have start :
        (Gate.new ttl capacity).cache.size + (Gate.new ttl capacity).metrics.removals = 0 := rfl
    rw [start, Nat.zero_add, Metrics.removals] at turnover
    omega
  case gauge =>
    intro shown set
    have gauge := Gate.gauge_after new acts
    rw [← gate, set] at gauge
    exact gauge
  case unset =>
    intro unset earlier before
    rw [gate] at unset
    exact Gate.size_of_after_eq_none new unset before

/-- While the verifier is asked about one login id, another one comes and goes. -/
def interlude : List Step :=
  [.put "bob" ⟨2, "bob"⟩ "Babbage#1", .evict "bob"]

/-- In the middle of a decision one question is open, and the gauge has come down again. -/
theorem counters_account_in_interlude : ∃ acts t,
    Moment State.verdict (.new 1000 2) [.authenticate "ada" "Lovelace#1" interlude] acts 1 t ∧
      Accounted 1000 2 acts 1 t ∧ acts.length = 3 := by
  have filled : ¬(Text.allBlank "ada" || Text.allBlank "Lovelace#1") = true := by decide
  have opened : (State.new 1000 2).gate.openRequest (State.new 1000 2).now "ada" "Lovelace#1" =
      ((Gate.new 1000 2).count .cacheMiss, .pending 0) := by
    apply Gate.openRequest_of_miss filled
    intro slot live
    cases live
  have moment : Moment State.verdict (.new 1000 2) [.authenticate "ada" "Lovelace#1" interlude] _ 1
      _ := .within opened (.last State.verdict _ interlude)
  exact ⟨_, _, moment, counters_account moment, rfl⟩

end Auth

end MemberAuth
