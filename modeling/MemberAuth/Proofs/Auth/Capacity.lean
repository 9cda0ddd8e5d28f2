import MemberAuth.Proofs.Auth.FastPath
import MemberAuth.Proofs.Cache.Turnover

/-!
# How a write makes room

A write that leaves more entries than there is room for takes records off the queue, the oldest
first, each with the entry that it stands for, until the capacity is kept. At every turn of this
loop the queue still has the records of all entries, so there is one to take as long as the loop
goes on. As nothing was over the capacity before the write, a single entry goes, and it is not the
one that was written.
-/
namespace MemberAuth

namespace Cache

/-- One turn of the loop that keeps the capacity, with the key of the entry that goes, if one
does. -/
inductive Turn (c : Cache) : List String → Cache → Prop
  | stale {r records} (excess : c.capacity < c.size) (taken : c.records.pop? = some (r, records))
      (stale : c.isCurrent r = false) : Turn c [] { c with records }
  | current {r records} (excess : c.capacity < c.size)
      (taken : c.records.pop? = some (r, records)) (current : c.isCurrent r = true) :
      Turn c [r.key] { c.remove r.key with records }

/-- Turns one after another, with the keys of all entries that go. -/
inductive Turns : Cache → List String → Cache → Prop
  | none (c : Cache) : Turns c [] c
  | turn {c d e gone later} (first : Turn c gone d) (rest : Turns d later e) :
      Turns c (gone ++ later) e

variable {c d e : Cache} {gone later : List String} {now : Nat} {key : String}
  {credential : Credential}

/-- Keeping the capacity is some turns, and counts the entries that go in them. -/
theorem turns_shrink (fuel : Nat) (c : Cache) :
    ∃ gone, Turns c gone (shrink fuel c).1 ∧ gone.length = (shrink fuel c).2 := by
  induction fuel generalizing c with
  | zero => exact ⟨[], .none c, rfl⟩
  | succ fuel ih =>
    rw [shrink]
    by_cases fits : c.size ≤ c.capacity
    · rw [if_pos fits]
      exact ⟨[], .none c, rfl⟩
    rw [if_neg fits]
    have excess : c.capacity < c.size := Nat.lt_of_not_le fits
    split
    · exact ⟨[], .none c, rfl⟩
    rename_i r records taken
    split
    · rename_i current
      obtain ⟨gone, rest, counted⟩ := ih { c.remove r.key with records }
      exact ⟨[r.key] ++ gone, .turn (.current excess taken current) rest, congrArg (· + 1) counted⟩
    · rename_i stale
      obtain ⟨gone, rest, counted⟩ := ih { c with records }
      exact ⟨[] ++ gone, .turn (.stale excess taken (by simpa using stale)) rest, counted⟩

/-- The entries written longest ago are gone, and no more of them than there was no room for. -/
structure Sheds (c : Cache) (gone : List String) (d : Cache) : Prop where
  logged : d.Logged
  capacity : d.capacity = c.capacity
  entries : ∃ dropped, c.entries = dropped ++ d.entries ∧ dropped.map CacheEntry.key = gone
  needed : gone = [] ∨ c.capacity ≤ d.size
  prunes : c.Prunes d

namespace Sheds

theorem refl (h : c.Logged) : c.Sheds [] c :=
  ⟨h, rfl, ⟨[], rfl, rfl⟩, Or.inl rfl, .refl c⟩

theorem size_eq (h : c.Logged) (sheds : c.Sheds gone d) : c.size = gone.length + d.size := by
  obtain ⟨dropped, parts, keys⟩ := sheds.entries
  rw [← h.length_entries, ← sheds.logged.length_entries, parts, ← keys, List.length_append,
    List.length_map]

theorem trans (first : c.Sheds gone d) (rest : d.Sheds later e) : c.Sheds (gone ++ later) e := by
  have size := rest.size_eq first.logged
  obtain ⟨dropped, parts, keys⟩ := first.entries
  obtain ⟨dropped', parts', keys'⟩ := rest.entries
  refine ⟨rest.logged, rest.capacity.trans first.capacity, ⟨dropped ++ dropped', ?_, ?_⟩, ?_,
    first.prunes.trans rest.prunes⟩
  · rw [parts, parts', List.append_assoc]
  · rw [List.map_append, keys, keys']
  · rcases rest.needed with rfl | still
    · rw [List.length_nil, Nat.zero_add] at size
      rw [List.append_nil, ← size]
      exact first.needed
    · right
      rw [← first.capacity]
      exact still

end Sheds

theorem Logged.turn (h : c.Logged) (turn : Turn c gone d) : c.Sheds gone d := by
  cases turn with
  | @stale r records excess taken stale =>
    obtain ⟨logged, same⟩ := h.pop_stale taken stale
    exact ⟨logged, rfl, ⟨[], same.symm, rfl⟩, Or.inl rfl, c.prunes_records records⟩
  | @current r records excess taken current =>
    obtain ⟨logged, e, parts⟩ := h.pop_current taken current
    have size := h.length_entries
    rw [parts, List.length_cons, logged.length_entries] at size
    have key : e.key = r.key := by
      obtain ⟨shown, there⟩ := Option.isSome_iff_exists.mp ((c.isSome_entryOf r).trans current)
      rw [entries, Queue.pop?_eq_some taken, List.filterMap_cons_some there] at parts
      rw [← (List.cons.inj parts).1]
      exact key_of_entryOf there
    refine ⟨logged, rfl, ⟨[e], parts, congrArg (fun k => [k]) key⟩, Or.inr (by omega), ?_⟩
    exact (c.prunes_remove r.key).trans (prunes_records _ records)

theorem Logged.turns (h : c.Logged) (turns : Turns c gone d) : c.Sheds gone d := by
  induction turns with
  | none c => exact .refl h
  | turn first _ ih =>
    have step := h.turn first
    exact step.trans (ih step.logged)

/-- Every record has a number of its own below the next one. -/
theorem Logged.records_le (h : c.Logged) : c.records.size ≤ c.nextGeneration := by
  have distinct : (c.records.toList.map WriteRecord.generation).Nodup := by
    rw [List.Nodup, List.pairwise_map]
    exact h.ordered.imp Nat.ne_of_lt
  have below : c.records.toList.map WriteRecord.generation ⊆ List.range c.nextGeneration := by
    intro n there
    obtain ⟨r, listed, rfl⟩ := List.mem_map.mp there
    exact List.mem_range.mpr (h.numbered r listed)
  have fewer := (List.subperm_of_subset distinct below).length_le
  rwa [List.length_map, List.length_range, ← Queue.size_eq_length] at fewer

namespace WellFormed

theorem size_write_le (h : c.WellFormed) (now : Nat) (key : String) (credential : Credential) :
    (c.write now key credential).size ≤ c.capacity + 1 := by
  have fits := h.fits
  rw [size_write]
  split <;> omega

/-- Wherever the loop is after a write, at most one entry has gone, the one that was written is
there, and there is a record to take if the loop is to go on. -/
theorem turns_write (h : c.WellFormed) (turns : Turns (c.write now key credential) gone d) :
    gone.length ≤ 1 ∧ key ∉ gone ∧
      d.slots[key]? = some ⟨credential, now, c.nextGeneration⟩ ∧
      (d.capacity < d.size → d.records.pop? ≠ none) := by
  obtain ⟨written, entries⟩ := h.toLogged.write now key credential
  have sheds := written.turns turns
  have size := sheds.size_eq written
  have most := h.size_write_le now key credential
  have roomy := h.roomy
  have capacity : (c.write now key credential).capacity = c.capacity := rfl
  have needed := sheds.needed
  have few : gone.length ≤ 1 := by
    rcases needed with rfl | still
    · exact Nat.zero_le 1
    · omega
  obtain ⟨dropped, parts, keys⟩ := sheds.entries
  have newest : ⟨key, credential, now⟩ ∈ d.entries := by
    have some_written := written.length_entries
    rw [entries, appended, List.length_append, List.length_singleton] at some_written
    have present : d.entries ≠ [] := by
      rw [← List.length_pos_iff, sheds.logged.length_entries]
      rcases needed with rfl | still
      · rw [List.length_nil] at size
        omega
      · omega
    have last := congrArg List.getLast? (entries.symm.trans parts)
    rw [appended, List.getLast?_concat, List.getLast?_append_of_ne_nil _ present] at last
    exact List.mem_of_getLast? last.symm
  refine ⟨few, ?_, ?_, sheds.logged.pop_ne_none⟩
  · have distinct := written.nodup_keys
    rw [parts, List.map_append, keys] at distinct
    intro there
    exact (List.nodup_append.mp distinct).2.2 key there key (List.mem_map_of_mem newest) rfl
  · obtain ⟨slot, found, _⟩ := sheds.logged.mem_entries.mp newest
    have own : (c.write now key credential).slots[key]? =
        some ⟨credential, now, c.nextGeneration⟩ := Std.ExtTreeMap.getElem?_insert_self
    have before := sheds.prunes.entries found
    rw [own] at before
    rw [found, before]

end WellFormed

end Cache

namespace Gate

variable {g : Gate}

/-- A call takes one number at most. -/
theorem nextGeneration_answer (g : Gate) (now : Nat) (call : CacheCall) :
    (g.answer now call).1.cache.nextGeneration ≤ g.cache.nextGeneration + 1 := by
  have put (key : String) (credential : Credential) :
      (g.cache.put now key credential).1.nextGeneration = g.cache.nextGeneration + 1 := by
    obtain ⟨slots, records, same⟩ := g.cache.put_eq now key credential
    rw [same]
    rfl
  cases call with
  | put key credential => exact Nat.le_of_eq (put key credential)
  | putIfUnchanged key credential epoch =>
    have written := congrArg Cache.nextGeneration (g.cache_putIfUnchanged now epoch key credential)
    refine Nat.le_trans (Nat.le_of_eq written) ?_
    split
    · exact Nat.le_of_eq (put key credential)
    · exact Nat.le_succ _
  | get key =>
    have kept : (g.get now key).1.cache.nextGeneration = g.cache.nextGeneration := by
      rw [get]
      split <;> rfl
    exact Nat.le_trans (Nat.le_of_eq kept) (Nat.le_succ _)
  | evict key =>
    have kept := congrArg Cache.nextGeneration (g.cache_evict key)
    exact Nat.le_trans (Nat.le_of_eq kept) (Nat.le_succ _)
  | purge =>
    have kept := congrArg Cache.nextGeneration (g.cache_purge now)
    exact Nat.le_trans (Nat.le_of_eq kept) (Nat.le_succ _)
  | size => exact Nat.le_succ _
  | isEmpty => exact Nat.le_succ _
  | epoch => exact Nat.le_succ _

theorem nextGeneration_after (g : Gate) (acts : List (Nat × Act)) :
    (g.after acts).cache.nextGeneration ≤ g.cache.nextGeneration + acts.length := by
  induction acts generalizing g with
  | nil => exact Nat.le_refl _
  | cons head rest ih =>
    obtain ⟨now, act⟩ := head
    have first : (g.act now act).cache.nextGeneration ≤ g.cache.nextGeneration + 1 := by
      rw [g.cache_act now act]
      cases act.call? with
      | none => exact Nat.le_succ _
      | some call => exact g.nextGeneration_answer now call
    have later := ih (g.act now act)
    rw [after, List.length_cons]
    omega

end Gate

namespace Auth

open Cache Gate

/-- After any acts, the queue has the record of every entry, in the order of the numbers and below
the next one. There are at most as many entries as there is room for, at most twice as many records,
and never more records than acts, so that a bound is kept that ends at a limit which the acts have
not gone beyond. So the loop of the next write ends with the capacity kept, and wherever it is, at
most one entry has gone, the new one is there, and a record is left if there is more to do. -/
theorem write_log_kept (ttl capacity : Nat) (acts : List (Nat × Act)) :
    let c := ((Gate.new ttl capacity).after acts).cache
    (∀ key slot, c.slots[key]? = some slot → ⟨key, slot.generation⟩ ∈ c.records.toList) ∧
    (c.records.toList.Pairwise fun r s => r.generation < s.generation) ∧
    (∀ r ∈ c.records.toList, r.generation < c.nextGeneration) ∧
    c.size ≤ max capacity 1 ∧ c.records.size ≤ 2 * max capacity 1 ∧
    (∀ limit, acts.length ≤ limit → c.records.size ≤ min (2 * max capacity 1) limit) ∧
    ∀ now key credential,
      (∃ gone d, Turns (c.write now key credential) gone d ∧ d.size ≤ d.capacity ∧
        c.put now key credential = (d.compact, gone.length)) ∧
      ∀ gone d, Turns (c.write now key credential) gone d →
        gone.length ≤ 1 ∧ key ∉ gone ∧
        d.slots[key]? = some ⟨credential, now, c.nextGeneration⟩ ∧
        (d.capacity < d.size → d.records.pop? ≠ none) := by
  have new := wellFormed_new ttl capacity
  have kept : ((Gate.new ttl capacity).after acts).cache.WellFormed := wellFormed_after new acts
  have room : ((Gate.new ttl capacity).after acts).cache.capacity = max capacity 1 :=
    (fixed_after new acts).2
  have numbers := nextGeneration_after (Gate.new ttl capacity) acts
  have start : (Gate.new ttl capacity).cache.nextGeneration = 0 := rfl
  intro c
  have fits := kept.fits
  have short := kept.short
  have records := kept.records_le
  rw [room] at fits short
  refine ⟨kept.recorded, kept.ordered, kept.numbered, fits, short, ?limit, fun now key credential =>
    ⟨?loop, fun gone d turns => kept.turns_write turns⟩⟩
  case limit =>
    intro limit enough
    have few : ((Gate.new ttl capacity).after acts).cache.records.size ≤ limit := by omega
    exact Nat.le_min.mpr ⟨short, few⟩
  case loop =>
    obtain ⟨written, _⟩ := kept.toLogged.write now key credential
    obtain ⟨gone, turns, counted⟩ :=
      turns_shrink (c.write now key credential).records.size (c.write now key credential)
    have capacity := (written.turns turns).capacity
    refine ⟨gone, _, turns, ?_, ?_⟩
    · rw [capacity]
      exact written.shrink_fits _ (Nat.le_refl _)
    · rw [counted]
      rfl

/-- The acts of a small run: an entry that comes and goes, and one that stays. -/
def comings : List (Nat × Act) :=
  [(0, .ask (.put "bob" ⟨⟨2, "bob"⟩, ""⟩)), (0, .ask (.evict "bob")),
    (1, .ask (.put "ada" ⟨⟨1, "ada"⟩, ""⟩))]

/-- With room for one entry, another one makes it go, after the record of the one before was passed
over. -/
theorem write_log_kept_for_one : ∃ gone d,
    Turns (((Gate.new 9 0).after comings).cache.write 2 "eve" ⟨⟨3, "eve"⟩, ""⟩) gone d ∧
      d.size ≤ d.capacity ∧ gone.length = 1 ∧ "eve" ∉ gone ∧
      d.slots["eve"]?.map Slot.insertedAt = some 2 := by
  obtain ⟨_, _, _, _, _, _, writes⟩ := write_log_kept 9 0 comings
  obtain ⟨⟨gone, d, turns, fits, put⟩, during⟩ := writes 2 "eve" ⟨⟨3, "eve"⟩, ""⟩
  obtain ⟨_, spared, resident, _⟩ := during gone d turns
  refine ⟨gone, d, turns, fits, ?_, spared, ?_⟩
  · have counted := congrArg Prod.snd put
    refine counted.symm.trans ?_
    decide +kernel
  · rw [resident]
    rfl

end Auth

end MemberAuth
