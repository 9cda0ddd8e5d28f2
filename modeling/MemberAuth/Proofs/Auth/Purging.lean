import MemberAuth.Proofs.Auth.Moments

/-!
# How long an entry can stay unread

A purge task drops every expired entry once in each interval. When time passes, the purges of all
tasks come one by one, and together they do what the last of them does. So while a task runs, no
entry gets older than the time to live and one interval, whether or not anyone looks for it, and
however the writes and the jumps of the clock lie to the times of the purges.
-/
namespace MemberAuth

namespace Cache

/-- Every later entry is an earlier one, or has been written at that time. -/
structure WritesAt (now : Nat) (before after : Cache) : Prop where
  ttl : after.ttl = before.ttl
  entries : ∀ {key : String} {slot : Slot}, after.slots[key]? = some slot →
    before.slots[key]? = some slot ∨ slot.insertedAt = now

variable {c : Cache}

theorem WritesAt.refl (now : Nat) (c : Cache) : WritesAt now c c :=
  ⟨rfl, Or.inl⟩

theorem writesAt_put (now : Nat) (c : Cache) (key : String) (credential : Credential) :
    WritesAt now c (c.put now key credential).1 := by
  refine ⟨c.ttl_put now key credential, fun {other slot} found => ?_⟩
  have written := (c.prunes_put now key credential).entries found
  simp only [write, Std.ExtTreeMap.getElem?_insert] at written
  split at written
  · rw [← Option.some.inj written]
    exact Or.inr rfl
  · exact Or.inl written

theorem writesAt_remove (now : Nat) (c : Cache) (key : String) : WritesAt now c (c.remove key) :=
  ⟨rfl, fun found => Or.inl ((c.prunes_remove key).entries found)⟩

theorem writesAt_purge (now : Nat) (c : Cache) (time : Nat) : WritesAt now c (c.purge time).1 :=
  ⟨rfl, fun found => Or.inl ((c.prunes_purge time).entries found)⟩

/-- What a purge leaves was younger than the time to live. -/
theorem young_of_purge {time : Nat} {key : String} {slot : Slot}
    (h : (c.purge time).1.slots[key]? = some slot) : time - slot.insertedAt < c.ttl := by
  simp only [purge, Std.ExtTreeMap.getElem?_filter, Option.pfilter_eq_filter,
    Option.filter_eq_some_iff] at h
  simpa [isExpired] using h.2

end Cache

namespace Gate

open Cache (WritesAt)

theorem writesAt_answer (g : Gate) (now : Nat) (call : CacheCall) :
    WritesAt now g.cache (g.answer now call).1.cache := by
  cases call with
  | put key credential => exact Cache.writesAt_put now g.cache key credential
  | putIfUnchanged key credential epoch =>
    have written := g.cache_putIfUnchanged now epoch key credential
    change WritesAt now g.cache (g.putIfUnchanged now key credential epoch).1.cache
    rw [written]
    split
    · exact Cache.writesAt_put now g.cache key credential
    · exact .refl now g.cache
  | get key =>
    change WritesAt now g.cache (g.get now key).1.cache
    rw [get]
    split
    · exact .refl now g.cache
    · exact Cache.writesAt_remove now g.cache key
    · exact .refl now g.cache
  | evict key =>
    change WritesAt now g.cache (g.evict key).1.cache
    rw [cache_evict]
    have removed := Cache.writesAt_remove now g.cache key
    exact ⟨removed.ttl, removed.entries⟩
  | purge =>
    change WritesAt now g.cache (g.purge now).1.cache
    rw [cache_purge]
    exact Cache.writesAt_purge now g.cache now
  | size => exact .refl now g.cache
  | isEmpty => exact .refl now g.cache
  | epoch => exact .refl now g.cache

theorem writesAt_act (g : Gate) (now : Nat) (act : Act) :
    WritesAt now g.cache (g.act now act).cache := by
  rw [g.cache_act now act]
  cases act.call? with
  | none => exact .refl now g.cache
  | some call => exact g.writesAt_answer now call

/-- A purge records the number of entries if there are fewer than before. -/
theorem purge_gate (g : Gate) (now : Nat) :
    (g.purge now).1 = ⟨(g.cache.purge now).1,
      if (g.cache.purge now).1.size < g.cache.size then
        g.metrics.recordEntries (g.cache.purge now).1.size
      else g.metrics⟩ := by
  have removed : 0 < (g.cache.purge now).2 ↔ (g.cache.purge now).1.size < g.cache.size :=
    Nat.sub_pos_iff_lt
  by_cases some : (g.cache.purge now).1.size < g.cache.size
  · rw [if_pos some, purge]
    dsimp only
    rw [if_pos (removed.mpr some)]
    rfl
  · rw [if_neg some, purge]
    dsimp only
    rw [if_neg (mt removed.mp some)]

/-- A purge leaves nothing to do or to count of what an earlier one does. -/
theorem purge_purge (g : Gate) {earlier later : Nat} (h : earlier ≤ later) :
    ((g.purge earlier).1.purge later).1 = (g.purge later).1 := by
  have once := g.cache.purge_purge h
  have fewer : (g.cache.purge earlier).1.size ≤ g.cache.size :=
    Std.ExtTreeMap.size_filter_le_size
  have least : ((g.cache.purge earlier).1.purge later).1.size ≤ (g.cache.purge earlier).1.size :=
    Std.ExtTreeMap.size_filter_le_size
  rw [purge_gate, purge_gate, purge_gate]
  dsimp only
  rw [once] at least ⊢
  generalize (g.cache.purge earlier).1.size = between at fewer least
  congr 1
  by_cases dropped : (g.cache.purge later).1.size < between
  · rw [if_pos dropped, if_pos (Nat.lt_of_lt_of_le dropped fewer)]
    split
    · rfl
    · rfl
  · -- The earlier one has dropped all, so the number that it recorded is the last one.
    obtain rfl : (g.cache.purge later).1.size = between := by omega
    rw [if_neg dropped]

end Gate

namespace Auth

open Cache (WritesAt)
open Gate (Act)

section Ticks

/-- How often a task purges up to a time, and when it does so last. -/
theorem PurgeTask.dueCount_cases (task : PurgeTask) (positive : 0 < task.interval) (time : Nat) :
    (time < task.due ∧ task.dueCount time = 0 ∧ task.lastDue? time = none) ∨ ∃ n,
      task.dueCount time = n + 1 ∧ task.lastDue? time = some (task.due + n * task.interval) ∧
        task.due + n * task.interval ≤ time ∧ time < task.due + (n + 1) * task.interval := by
  by_cases early : time < task.due
  · have count : task.dueCount time = 0 := if_pos early
    exact Or.inl ⟨early, count, by rw [lastDue?, count]⟩
  · have count : task.dueCount time = (time - task.due) / task.interval + 1 := if_neg early
    have below := Nat.div_mul_le_self (time - task.due) task.interval
    have above := Nat.lt_div_mul_add positive (a := time - task.due)
    generalize (time - task.due) / task.interval = n at count below above
    refine Or.inr ⟨n, count, by rw [lastDue?, count], by omega, ?_⟩
    rw [Nat.add_mul, Nat.one_mul]
    omega

/-- A purge at some time after others does what they all do. -/
theorem State.foldl_purge (s : State) {ticks : List Nat} (ordered : ticks.Pairwise (· ≤ ·)) :
    ticks.foldl State.purge s = match ticks.max? with
      | none => s
      | some due => s.purge due := by
  induction ticks generalizing s with
  | nil => rfl
  | cons tick rest ih =>
    obtain ⟨first, ordered⟩ := List.pairwise_cons.mp ordered
    rw [List.foldl_cons, ih (s.purge tick) ordered, List.max?_cons]
    cases last : rest.max? with
    | none => rfl
    | some due =>
      have later : tick ≤ due := first due (List.max?_mem last)
      rw [Option.elim_some, Nat.max_eq_right later]
      dsimp only
      rw [purge, purge, purge, s.gate.purge_purge later]

/-- The ticks of some tasks up to a time. -/
theorem PurgeTasks.max?_ticks {tasks : PurgeTasks} {time : Nat} {ticks : List Nat}
    (positive : ∀ task ∈ tasks.toList, 0 < task.interval)
    (due : ∀ tick, tick ∈ ticks ↔ tick ≤ time ∧
      ∃ task ∈ tasks.toList, ∃ n, tick = task.due + n * task.interval) :
    ticks.max? = tasks.lastDue? time := by
  cases latest : tasks.lastDue? time with
  | none =>
    rw [List.max?_eq_none_iff, List.eq_nil_iff_forall_not_mem]
    intro tick listed
    obtain ⟨past, task, running, n, rfl⟩ := (due tick).mp listed
    rw [PurgeTasks.lastDue?, List.max?_eq_none_iff, List.filterMap_eq_nil_iff] at latest
    rcases task.dueCount_cases (positive task running) time with ⟨early, _⟩ | ⟨k, _, last, _⟩
    · omega
    · rw [latest task running] at last
      cases last
  | some last =>
    obtain ⟨mem, newest⟩ := List.max?_eq_some_iff.mp latest
    rw [List.max?_eq_some_iff]
    constructor
    · obtain ⟨task, running, own⟩ := List.mem_filterMap.mp mem
      rcases task.dueCount_cases (positive task running) time with
        ⟨_, _, none⟩ | ⟨k, _, last, past, _⟩
      · rw [none] at own
        cases own
      · rw [last] at own
        cases own
        exact (due _).mpr ⟨past, task, running, k, rfl⟩
    · intro tick listed
      obtain ⟨past, task, running, n, rfl⟩ := (due tick).mp listed
      rcases task.dueCount_cases (positive task running) time with
        ⟨early, _⟩ | ⟨k, _, own, _, next⟩
      · omega
      -- The tick is not beyond the last one of its task, which is not beyond the last one of all.
      have before : n * task.interval < (k + 1) * task.interval := by omega
      have steps : n ≤ k := Nat.le_of_lt_succ (Nat.lt_of_mul_lt_mul_right before)
      have within := Nat.mul_le_mul_right task.interval steps
      have bound := newest _ (List.mem_filterMap.mpr ⟨task, running, own⟩)
      omega

/-- Time passes as if each task purged at every tick of its own, in the order of the times. -/
theorem State.advance_eq_ticks (s : State) (duration : Nat) {ticks : List Nat}
    (positive : ∀ task ∈ s.purging.toList, 0 < task.interval)
    (due : ∀ tick, tick ∈ ticks ↔ tick ≤ s.now + duration ∧
      ∃ task ∈ s.purging.toList, ∃ n, tick = task.due + n * task.interval)
    (ordered : ticks.Pairwise (· ≤ ·)) :
    s.advance duration = { ticks.foldl State.purge s with
      now := s.now + duration
      purging := s.purging.after (s.now + duration) } := by
  have purged := s.foldl_purge ordered
  rw [PurgeTasks.max?_ticks positive due] at purged
  exact congrArg (fun t : State => { t with
    now := s.now + duration
    purging := s.purging.after (s.now + duration) }) purged.symm

end Ticks

/-- When time has passed, either no purge of the task has fallen due, or one has, less than an
interval ago, and the next one is an interval later. -/
theorem PurgeTask.after_cases (task : PurgeTask) (positive : 0 < task.interval) (time : Nat) :
    (time < task.due ∧ task.after time = task) ∨
      ∃ last, task.lastDue? time = some last ∧ last ≤ time ∧ time < last + task.interval ∧
        (task.after time).due = last + task.interval := by
  rcases task.dueCount_cases positive time with
    ⟨early, count, _⟩ | ⟨n, count, last, past, recent⟩
  · refine Or.inl ⟨early, ?_⟩
    rw [after, count, Nat.zero_mul]
    rfl
  · rw [Nat.add_mul, Nat.one_mul, ← Nat.add_assoc] at recent
    refine Or.inr ⟨_, last, past, recent, ?_⟩
    rw [after, count, Nat.add_mul, Nat.one_mul, Nat.add_assoc]

/-- Its purges are up to date: the next one is less than an interval away, and what was expired at
the one before is gone. -/
structure PurgeTask.UpToDate (task : PurgeTask) (now : Nat) (c : Cache) : Prop where
  ahead : now < task.due
  near : task.due ≤ now + task.interval
  clean : ∀ {key : String} {slot : Slot}, c.slots[key]? = some slot →
    task.due ≤ slot.insertedAt + c.ttl + task.interval

namespace PurgeTask.UpToDate

variable {task : PurgeTask} {now : Nat} {c c' : Cache}

/-- A write is younger than the purge before it, and nothing else makes an entry. -/
theorem writes (h : task.UpToDate now c) (written : WritesAt now c c') : task.UpToDate now c' := by
  obtain ⟨ahead, near, clean⟩ := h
  refine ⟨ahead, near, fun {key slot} found => ?_⟩
  rw [written.ttl]
  rcases written.entries found with old | new
  · exact clean old
  · rw [new]
    omega

theorem positive (h : task.UpToDate now c) : 0 < task.interval := by
  obtain ⟨ahead, near, _⟩ := h
  omega

/-- What a purge leaves at a time is clean at least until then. -/
theorem clean_of_purge {time : Nat} {key : String} {slot : Slot}
    (found : (c.purge time).1.slots[key]? = some slot) : time ≤ slot.insertedAt + c.ttl := by
  have young := Cache.young_of_purge found
  omega

/-- A task that is up to date remains so when time passes, whichever task purges last. -/
theorem advance (h : task.UpToDate now c) {tasks : PurgeTasks} (running : task ∈ tasks.toList)
    (duration : Nat) :
    (task.after (now + duration)).UpToDate (now + duration)
      (match tasks.lastDue? (now + duration) with
        | none => c
        | some due => (c.purge due).1) := by
  generalize later : now + duration = time
  have interval : (task.after time).interval = task.interval := rfl
  rcases task.after_cases h.positive time with ⟨early, same⟩ | ⟨last, due, past, recent, next⟩
  · rw [same]
    have waiting : task.UpToDate time c := by
      obtain ⟨_, near, clean⟩ := h
      exact ⟨early, by omega, clean⟩
    split
    · exact waiting
    · exact waiting.writes (Cache.writesAt_purge time c _)
  · -- The last purge of any task is not before the last one of this task.
    have listed : last ∈ tasks.toList.filterMap fun t => t.lastDue? time :=
      List.mem_filterMap.mpr ⟨task, running, due⟩
    cases latest : tasks.lastDue? time with
    | none =>
      rw [PurgeTasks.lastDue?, List.max?_eq_none_iff] at latest
      rw [latest] at listed
      cases listed
    | some newest =>
      have newer : last ≤ newest := (List.max?_eq_some_iff.mp latest).2 last listed
      refine ⟨by omega, by omega, fun {key slot} found => ?_⟩
      have clean := clean_of_purge found
      rw [next, interval]
      change last + task.interval ≤ slot.insertedAt + c.ttl + task.interval
      omega

/-- No entry is as old as the time to live and an interval, or older. -/
theorem age_lt (h : task.UpToDate now c) {key : String} {slot : Slot}
    (found : c.slots[key]? = some slot) : now - slot.insertedAt < c.ttl + task.interval := by
  have clean := h.clean found
  obtain ⟨ahead, near, _⟩ := h
  omega

end PurgeTask.UpToDate

theorem PurgeTasks.mem_after {tasks : PurgeTasks} {task : PurgeTask} (h : task ∈ tasks.toList)
    (time : Nat) : task.after time ∈ (tasks.after time).toList := by
  have each : (tasks.after time).toList = tasks.toList.map (·.after time) := by
    rw [toList, toList, List.map_append, after]
    cases tasks.newest with
    | none => rfl
    | some newest => rfl
  rw [each]
  exact List.mem_map_of_mem h

theorem PurgeTasks.mem_start {tasks : PurgeTasks} {task : PurgeTask} (h : task ∈ tasks.toList)
    (started : Option PurgeTask) : task ∈ (tasks.start started).toList :=
  List.mem_append_right _ h

/-- A purge task with this interval is running, and it is up to date. -/
structure State.Tended (ttl interval : Nat) (s : State) : Prop where
  ttl : s.gate.cache.ttl = ttl
  task : ∃ task ∈ s.purging.toList, task.interval = interval ∧
    task.UpToDate s.now s.gate.cache

namespace State.Tended

variable {ttl interval : Nat} {s : State}

theorem regate (h : s.Tended ttl interval) {gate : Gate}
    (written : WritesAt s.now s.gate.cache gate.cache) : Tended ttl interval { s with gate } := by
  obtain ⟨same, task, running, own, upToDate⟩ := h
  exact ⟨written.ttl.trans same, task, running, own, upToDate.writes written⟩

theorem ask (h : s.Tended ttl interval) (call : CacheCall) :
    Tended ttl interval { s with gate := (s.gate.answer s.now call).1 } :=
  h.regate (s.gate.writesAt_answer s.now call)

theorem put (h : s.Tended ttl interval) (key : String) (identity : Identity) (password : String) :
    (s.put key identity password).Tended ttl interval :=
  h.ask (.put key (credential identity password))

theorem fill (h : s.Tended ttl interval) (stem : String) (first past : Nat) (password : String) :
    (s.fill stem first past password).Tended ttl interval := by
  rw [State.fill]
  induction List.range' first (past - first) generalizing s with
  | nil => exact h
  | cons number rest ih => exact ih (h.put _ _ password)

theorem advance (h : s.Tended ttl interval) (duration : Nat) :
    (s.advance duration).Tended ttl interval := by
  obtain ⟨same, task, running, own, upToDate⟩ := h
  have later := upToDate.advance running duration
  have still := PurgeTasks.mem_after running (s.now + duration)
  rw [State.advance]
  cases latest : s.purging.lastDue? (s.now + duration) with
  | none =>
    rw [latest] at later
    exact ⟨same, _, still, own, later⟩
  | some due =>
    rw [latest] at later
    have purged : (s.purge due).gate.cache = (s.gate.cache.purge due).1 := s.gate.cache_purge due
    refine ⟨?_, _, still, own, ?_⟩
    · exact (congrArg Cache.ttl purged).trans same
    · have later : (task.after (s.now + duration)).UpToDate (s.now + duration)
          (s.gate.cache.purge due).1 := later
      rw [← purged] at later
      exact later

theorem startPurging (h : s.Tended ttl interval) (other : Nat) :
    (s.startPurging other).Tended ttl interval := by
  rw [State.startPurging]
  split
  · obtain ⟨same, task, running, own, upToDate⟩ := h
    exact ⟨same, task, PurgeTasks.mem_start running none, own, upToDate⟩
  · obtain ⟨same, task, running, own, upToDate⟩ := h.ask .purge
    exact ⟨same, task, PurgeTasks.mem_start running _, own, upToDate⟩

end State.Tended

/-- A task purges as soon as it is started. -/
theorem State.tended_startPurging (s : State) {interval : Nat} (positive : 0 < interval) :
    (s.startPurging interval).Tended s.gate.cache.ttl interval := by
  have purged : (s.purge s.now).gate.cache = (s.gate.cache.purge s.now).1 :=
    s.gate.cache_purge s.now
  have running : (⟨interval, s.now + interval⟩ : PurgeTask) ∈
      (s.purging.start (some ⟨interval, s.now + interval⟩)).toList := List.mem_cons_self
  rw [State.startPurging, if_neg (Nat.pos_iff_ne_zero.mp positive)]
  have ttl := congrArg Cache.ttl purged
  refine ⟨ttl, _, running, rfl, ?_⟩
  refine ⟨Nat.lt_add_of_pos_right positive, Nat.le_refl _, fun {key slot} found => ?_⟩
  have found : (s.purge s.now).gate.cache.slots[key]? = some slot := found
  rw [purged] at found
  have clean := PurgeTask.UpToDate.clean_of_purge found
  change s.now + interval ≤ slot.insertedAt + (s.purge s.now).gate.cache.ttl + interval
  rw [purged]
  exact Nat.add_le_add_right clean interval

def Step.isStop : Step → Bool
  | .stopPurging => true
  | _ => false

/-- Only a step that stops a task can keep it from being up to date. -/
theorem tended_invariant (ttl interval : Nat) :
    Invariant (fun step => !step.isStop) (State.Tended ttl interval) := by
  constructor
  case run =>
    intro s step simple spared h
    cases step with
    | idle => exact h
    | put key identity password => exact h.put key identity password
    | fill stem first past password => exact h.fill stem first past password
    | keepEpoch name => exact ⟨h.ttl, h.task⟩
    | putIfUnchanged key identity password ref =>
      rw [Step.run]
      cases s.epochOf? ref with
      | none => exact h
      | some epoch => exact h.ask (.putIfUnchanged key (State.credential identity password) epoch)
    | get key => exact h.ask (.get key)
    | matchPassword key password => exact h.ask (.get key)
    | evict key => exact h.ask (.evict key)
    | purge => exact h.ask .purge
    | info => exact h
    | advance duration => exact h.advance duration
    | startPurging other => exact h.startPurging other
    | stopPurging => cases spared
    | setAccount key account => exact ⟨h.ttl, h.task⟩
    | removeAccount key => exact ⟨h.ttl, h.task⟩
    | setOutage reason => exact ⟨h.ttl, h.task⟩
    | authenticate loginId password during => cases simple
  case decided =>
    intro s loginId password gate result opened h
    have written := s.gate.writesAt_act s.now (.opens loginId password)
    rw [Gate.act, opened] at written
    exact h.regate written
  case asking =>
    intro s loginId h
    obtain ⟨same, task⟩ := h.ask (.get loginId)
    exact ⟨same, task⟩
  case closed =>
    intro s loginId password epoch verdict h
    exact h.regate (s.gate.writesAt_act s.now (.closes loginId password epoch verdict))

/-- From the start of a purge task on, whatever the cache holds then, and as long as no task is
stopped, no entry is ever as old as the time to live and an interval together. -/
theorem residency_bounded {v : Verifier} {s t : State} {interval : Nat} (positive : 0 < interval)
    {steps : List Step} (unstopped : Step.onlyAll (fun step => !step.isStop) steps = true)
    {acts : List (Nat × Act)} {waiting : Nat}
    (moment : Moment v (s.startPurging interval) steps acts waiting t)
    {key : String} {slot : Slot} (resident : t.gate.cache.slots[key]? = some slot) :
    t.now - slot.insertedAt < s.gate.cache.ttl + interval := by
  have tended := (tended_invariant s.gate.cache.ttl interval).moment moment unstopped
    (s.tended_startPurging positive)
  obtain ⟨ttl, task, _, own, upToDate⟩ := tended
  have age := upToDate.age_lt resident
  rw [ttl, own] at age
  exact age

/-- With a time to live of 10 and a purge at every fifth moment, an entry written at 1 is still
there at 14: at the purge before, it was too young by one. -/
theorem residency_bounded_nearly_reached :
    ∃ acts t slot,
      Moment State.verdict ((State.new 10 1).startPurging 5)
        [.advance 1, .put "ada" ⟨1, "ada"⟩ "Lovelace#1", .advance 13] acts 0 t ∧
      t.gate.cache.slots["ada"]? = some slot ∧ t.now - slot.insertedAt = 13 ∧
      t.now - slot.insertedAt < 10 + 5 := by
  have moment := Moment.last State.verdict ((State.new 10 1).startPurging 5)
    [.advance 1, .put "ada" ⟨1, "ada"⟩ "Lovelace#1", .advance 13]
  generalize reached : (Step.runAllWith State.verdict ((State.new 10 1).startPurging 5) _).1 = t
    at moment
  have now : t.now = 14 := by rw [← reached]; rfl
  have written : t.gate.cache.slots["ada"]?.map Slot.insertedAt = some 1 := by
    rw [← reached]
    decide +kernel
  obtain ⟨slot, resident, insertedAt⟩ := Option.map_eq_some_iff.mp written
  have bounded := residency_bounded (by decide) rfl moment resident
  refine ⟨_, t, slot, moment, resident, ?_, bounded⟩
  rw [now, insertedAt]

end Auth

end MemberAuth
