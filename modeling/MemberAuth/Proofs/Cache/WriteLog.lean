import MemberAuth.Cache.Basic
import Mathlib.Data.List.Nodup

/-!
# The write log of the cache

The queue holds a record of every resident entry, in the order of the writes. What the queue and the
slots say together is a list of entries, oldest write first, and every operation of the cache is a
plain operation on that list: the stale records are never seen in it.
-/
namespace MemberAuth

/-- A resident entry without the number of its write. -/
structure CacheEntry where
  key : String
  credential : Credential
  insertedAt : Nat
  deriving DecidableEq, Repr

def Slot.entry (slot : Slot) (key : String) : CacheEntry :=
  ⟨key, slot.credential, slot.insertedAt⟩

namespace Cache

/-- The entry that a record stands for, unless the record is stale. -/
def entryOf (c : Cache) (r : WriteRecord) : Option CacheEntry :=
  match c.slots[r.key]? with
  | none => none
  | some slot => if slot.generation = r.generation then some (slot.entry r.key) else none

/-- The resident entries in write order. -/
def entries (c : Cache) : List CacheEntry :=
  c.records.toList.filterMap c.entryOf

/-- The entries once one more is written: it comes last, and its key has no other entry. -/
def appended (c : Cache) (now : Nat) (key : String) (credential : Credential) : List CacheEntry :=
  c.entries.filter (fun e => e.key ≠ key) ++ [⟨key, credential, now⟩]

/-- Every resident entry has its record, and the records stand in the order of their writes. -/
structure Logged (c : Cache) : Prop where
  recorded : ∀ (key : String) (slot : Slot), c.slots[key]? = some slot →
    ⟨key, slot.generation⟩ ∈ c.records.toList
  ordered : c.records.toList.Pairwise fun r s => r.generation < s.generation
  numbered : ∀ r ∈ c.records.toList, r.generation < c.nextGeneration

theorem entryOf_eq_some {c : Cache} {r : WriteRecord} {e : CacheEntry} :
    c.entryOf r = some e ↔ ∃ slot, c.slots[r.key]? = some slot ∧
      slot.generation = r.generation ∧ slot.entry r.key = e := by
  unfold entryOf
  cases c.slots[r.key]? with
  | none => simp
  | some slot => simp

theorem isSome_entryOf (c : Cache) (r : WriteRecord) : (c.entryOf r).isSome = c.isCurrent r := by
  unfold entryOf isCurrent
  cases c.slots[r.key]? with
  | none => rfl
  | some slot =>
    by_cases h : slot.generation = r.generation
    · simp [h]
    · simp [h]

theorem key_of_entryOf {c : Cache} {r : WriteRecord} {e : CacheEntry} (h : c.entryOf r = some e) :
    e.key = r.key := by
  obtain ⟨slot, _, _, rfl⟩ := entryOf_eq_some.mp h
  rfl

/-- Two records of one key that are not stale are of the same write. -/
theorem generation_of_entryOf {c : Cache} {r s : WriteRecord} {d e : CacheEntry}
    (hr : c.entryOf r = some d) (hs : c.entryOf s = some e) (same : d.key = e.key) :
    r.generation = s.generation := by
  rw [key_of_entryOf hr, key_of_entryOf hs] at same
  obtain ⟨slot, found, number, _⟩ := entryOf_eq_some.mp hr
  obtain ⟨slot', found', number', _⟩ := entryOf_eq_some.mp hs
  rw [same, found'] at found
  cases found
  exact number.symm.trans number'

namespace Logged

variable {c : Cache}

theorem mem_entries (h : c.Logged) {e : CacheEntry} :
    e ∈ c.entries ↔ ∃ slot, c.slots[e.key]? = some slot ∧ slot.entry e.key = e := by
  constructor
  · intro he
    obtain ⟨r, _, hr⟩ := List.mem_filterMap.mp he
    obtain ⟨slot, found, _, rfl⟩ := entryOf_eq_some.mp hr
    exact ⟨slot, found, rfl⟩
  · rintro ⟨slot, found, shown⟩
    refine List.mem_filterMap.mpr ⟨_, h.recorded e.key slot found, ?_⟩
    exact entryOf_eq_some.mpr ⟨slot, found, rfl, shown⟩

/-- There is one entry for each key. -/
theorem nodup_keys (h : c.Logged) : (c.entries.map CacheEntry.key).Nodup := by
  rw [List.Nodup, List.pairwise_map, entries, List.pairwise_filterMap]
  refine h.ordered.imp fun {r s} before d hd e he same => ?_
  have := generation_of_entryOf hd he same
  omega

theorem length_entries (h : c.Logged) : c.entries.length = c.size := by
  have keys : (c.entries.map CacheEntry.key).Perm c.slots.keys := by
    rw [List.perm_ext_iff_of_nodup h.nodup_keys Std.ExtTreeMap.nodup_keys]
    intro key
    rw [Std.ExtTreeMap.mem_keys, List.mem_map, Std.ExtTreeMap.mem_iff_isSome_getElem?,
      Option.isSome_iff_exists]
    constructor
    · rintro ⟨e, he, rfl⟩
      obtain ⟨slot, found, _⟩ := h.mem_entries.mp he
      exact ⟨slot, found⟩
    · rintro ⟨slot, found⟩
      exact ⟨slot.entry key, h.mem_entries.mpr ⟨slot, found, rfl⟩, rfl⟩
  calc c.entries.length = (c.entries.map CacheEntry.key).length := (List.length_map _).symm
    _ = c.slots.keys.length := keys.length_eq
    _ = c.size := Std.ExtTreeMap.length_keys

theorem find_entries (h : c.Logged) (key : String) :
    c.entries.find? (fun e => e.key = key) = c.slots[key]?.map fun slot => slot.entry key := by
  cases hs : c.slots[key]? with
  | none =>
    rw [Option.map_none, List.find?_eq_none]
    intro e he hk
    obtain ⟨slot, found, _⟩ := h.mem_entries.mp he
    rw [of_decide_eq_true hk, hs] at found
    cases found
  | some slot =>
    have there : slot.entry key ∈ c.entries := h.mem_entries.mpr ⟨slot, hs, rfl⟩
    cases hf : c.entries.find? (fun e => e.key = key) with
    | none => exact absurd (decide_eq_true rfl) (List.find?_eq_none.mp hf _ there)
    | some e =>
      have hk : e.key = key := by simpa using List.find?_some hf
      obtain ⟨other, found, shown⟩ := h.mem_entries.mp (List.mem_of_find?_eq_some hf)
      rw [hk] at found shown
      rw [hs] at found
      cases found
      rw [← shown, Option.map_some]

/-- Entries are dropped from the slots: the list loses them and keeps its order. -/
theorem drop_slots (h : c.Logged) {slots : Std.ExtTreeMap String Slot} {keep : CacheEntry → Bool}
    (hs : ∀ (key : String) (slot : Slot),
      slots[key]? = some slot ↔ c.slots[key]? = some slot ∧ keep (slot.entry key) = true) :
    { c with slots }.Logged ∧ { c with slots }.entries = c.entries.filter keep := by
  constructor
  · exact ⟨fun key slot found => h.recorded key slot ((hs key slot).mp found).1, h.ordered,
      h.numbered⟩
  · rw [entries, entries, List.filter_filterMap]
    refine List.filterMap_congr fun r _ => Option.ext fun e => ?_
    rw [Option.filter_eq_some_iff, entryOf_eq_some, entryOf_eq_some]
    constructor
    · rintro ⟨slot, found, number, rfl⟩
      obtain ⟨found, kept⟩ := (hs r.key slot).mp found
      exact ⟨⟨slot, found, number, rfl⟩, kept⟩
    · rintro ⟨⟨slot, found, number, rfl⟩, kept⟩
      exact ⟨slot, (hs r.key slot).mpr ⟨found, kept⟩, number, rfl⟩

theorem remove (h : c.Logged) (key : String) :
    (c.remove key).Logged ∧ (c.remove key).entries = c.entries.filter (fun e => e.key ≠ key) := by
  refine h.drop_slots fun other slot => ?_
  rw [Std.ExtTreeMap.getElem?_erase]
  by_cases hk : key = other
  · simp [hk, Slot.entry]
  · simp [hk, Slot.entry, Ne.symm hk]

theorem purge (h : c.Logged) (now : Nat) :
    (c.purge now).1.Logged ∧
      (c.purge now).1.entries = c.entries.filter (fun e => now - e.insertedAt < c.ttl) := by
  refine h.drop_slots fun key slot => ?_
  rw [Std.ExtTreeMap.getElem?_filter, Option.pfilter_eq_filter, Option.filter_eq_some_iff,
    decide_eq_true_iff]
  simp [isExpired, Slot.entry]

theorem write (h : c.Logged) (now : Nat) (key : String) (credential : Credential) :
    (c.write now key credential).Logged ∧
      (c.write now key credential).entries = c.appended now key credential := by
  have slots : ∀ other, (c.write now key credential).slots[other]? =
      if key = other then some ⟨credential, now, c.nextGeneration⟩ else c.slots[other]? := by
    intro other
    simp [Cache.write, Std.ExtTreeMap.getElem?_insert]
  have records : (c.write now key credential).records.toList =
      c.records.toList ++ [⟨key, c.nextGeneration⟩] := c.records.toList_push _
  constructor
  · constructor
    · intro other slot found
      rw [slots] at found
      rw [records]
      split at found
      · rename_i hk
        cases found
        simp [hk]
      · exact List.mem_append_left _ (h.recorded other slot found)
    · rw [records, List.pairwise_append]
      refine ⟨h.ordered, List.pairwise_singleton _ _, fun r hr s hs => ?_⟩
      rw [List.mem_singleton.mp hs]
      exact h.numbered r hr
    · intro r hr
      rw [records, List.mem_append, List.mem_singleton] at hr
      change r.generation < c.nextGeneration + 1
      rcases hr with old | rfl
      · have := h.numbered r old
        omega
      · exact Nat.lt_succ_self _
  · rw [entries, records, List.filterMap_append, appended, entries, List.filter_filterMap]
    congr 1
    · refine List.filterMap_congr fun r hr => Option.ext fun e => ?_
      rw [Option.filter_eq_some_iff, entryOf_eq_some, entryOf_eq_some]
      simp only [slots]
      by_cases hk : key = r.key
      · -- The record is of an earlier write of the key, and stale now.
        have := h.numbered r hr
        constructor
        · rintro ⟨slot, found, number, _⟩
          rw [if_pos hk] at found
          cases found
          exact absurd number (Nat.ne_of_gt this)
        · rintro ⟨⟨slot, found, number, rfl⟩, kept⟩
          simp [Slot.entry, hk] at kept
      · simp only [if_neg hk]
        constructor
        · rintro ⟨slot, found, number, rfl⟩
          exact ⟨⟨slot, found, number, rfl⟩, decide_eq_true (Ne.symm hk)⟩
        · rintro ⟨found, _⟩
          exact found
    · rw [List.filterMap_cons_some (b := ⟨key, credential, now⟩), List.filterMap_nil]
      exact entryOf_eq_some.mpr ⟨_, by rw [slots, if_pos rfl], rfl, rfl⟩

/-- Taking a stale record off the queue is not seen in the list. -/
theorem pop_stale (h : c.Logged) {r : WriteRecord} {records : Queue WriteRecord}
    (hp : c.records.pop? = some (r, records)) (stale : c.isCurrent r = false) :
    { c with records }.Logged ∧ { c with records }.entries = c.entries := by
  have hl := Queue.pop?_eq_some hp
  have none : c.entryOf r = none := by
    rw [← Option.not_isSome_iff_eq_none, isSome_entryOf, stale]
    exact Bool.false_ne_true
  have ordered := h.ordered
  rw [hl, List.pairwise_cons] at ordered
  constructor
  · refine ⟨fun key slot found => ?_, ordered.2, fun s hs => ?_⟩
    · have hm := h.recorded key slot found
      rw [hl, List.mem_cons] at hm
      rcases hm with rfl | hm
      · rw [entryOf_eq_some.mpr ⟨slot, found, rfl, rfl⟩] at none
        cases none
      · exact hm
    · exact h.numbered s (by rw [hl]; exact List.mem_cons_of_mem r hs)
  · rw [entries, entries, hl, List.filterMap_cons_none none]
    rfl

/-- Taking the record of a resident entry off the queue, and the entry with it, drops the head of
the list. -/
theorem pop_current (h : c.Logged) {r : WriteRecord} {records : Queue WriteRecord}
    (hp : c.records.pop? = some (r, records)) (current : c.isCurrent r = true) :
    { c.remove r.key with records }.Logged ∧
      ∃ e, c.entries = e :: { c.remove r.key with records }.entries := by
  have hl := Queue.pop?_eq_some hp
  rw [← isSome_entryOf, Option.isSome_iff_exists] at current
  obtain ⟨e, he⟩ := current
  have ordered := h.ordered
  rw [hl, List.pairwise_cons] at ordered
  constructor
  · refine ⟨fun key slot found => ?_, ordered.2, fun s hs => ?_⟩
    · change (c.slots.erase r.key)[key]? = some slot at found
      rw [Std.ExtTreeMap.getElem?_erase] at found
      split at found
      · cases found
      · rename_i hk
        have hm := h.recorded key slot found
        rw [hl, List.mem_cons] at hm
        rcases hm with rfl | hm
        · simp at hk
        · exact hm
    · exact h.numbered s (by rw [hl]; exact List.mem_cons_of_mem r hs)
  · refine ⟨e, ?_⟩
    rw [entries, entries, hl, List.filterMap_cons_some he]
    congr 1
    refine List.filterMap_congr fun s hs => Option.ext fun d => ?_
    rw [entryOf_eq_some, entryOf_eq_some]
    simp only [Cache.remove, Std.ExtTreeMap.getElem?_erase]
    have later := ordered.1 s hs
    by_cases hk : r.key = s.key
    · constructor
      · rintro ⟨slot, found, number, shown⟩
        have hd := entryOf_eq_some.mpr ⟨slot, found, number, shown⟩
        have := generation_of_entryOf he hd (by rw [key_of_entryOf he, key_of_entryOf hd, hk])
        omega
      · rintro ⟨slot, found, _⟩
        simp [hk] at found
    · simp [hk]

/-- While the capacity is exceeded there is a record left to take. -/
theorem pop_ne_none (h : c.Logged) (excess : c.capacity < c.size) : c.records.pop? ≠ none := by
  intro hp
  have := h.length_entries
  rw [entries, Queue.pop?_eq_none hp, List.filterMap_nil, List.length_nil] at this
  omega

/-- Keeping the capacity drops the entries written longest ago, as many as are too many. -/
theorem shrink (h : c.Logged) (fuel : Nat) (enough : c.records.size ≤ fuel) :
    (shrink fuel c).1.Logged ∧
      (shrink fuel c).1.entries = c.entries.drop (c.size - c.capacity) ∧
      (shrink fuel c).2 = c.size - c.capacity := by
  induction fuel generalizing c with
  | zero =>
    have none : c.records.toList = [] := by
      rw [Queue.size_eq_length] at enough
      exact List.length_eq_zero_iff.mp (Nat.le_zero.mp enough)
    have size := h.length_entries
    rw [entries, none, List.filterMap_nil, List.length_nil] at size
    refine ⟨h, ?_, ?_⟩
    · rw [← size, Nat.zero_sub, List.drop_zero]
      rfl
    · rw [← size, Nat.zero_sub]
      rfl
  | succ fuel ih =>
    rw [Cache.shrink]
    by_cases fits : c.size ≤ c.capacity
    · rw [if_pos fits, Nat.sub_eq_zero_of_le fits]
      exact ⟨h, rfl, rfl⟩
    rw [if_neg fits]
    have size := h.length_entries
    split
    · rename_i hp
      exact absurd hp (h.pop_ne_none (Nat.lt_of_not_le fits))
    rename_i r records hp
    have fewer : records.size ≤ fuel := by
      have hl := congrArg List.length (Queue.pop?_eq_some hp)
      rw [← Queue.size_eq_length, List.length_cons, ← Queue.size_eq_length] at hl
      omega
    split
    · rename_i current
      obtain ⟨logged, e, he⟩ := h.pop_current hp current
      have less := logged.length_entries
      rw [he, List.length_cons, less] at size
      obtain ⟨logged', entries', dropped⟩ := ih logged fewer
      have steps : c.size - c.capacity =
          { c.remove r.key with records }.size - c.capacity + 1 := by omega
      refine ⟨logged', ?_, ?_⟩
      · rw [entries', he, steps, List.drop_succ_cons]
        rfl
      · rw [steps]
        exact congrArg (· + 1) dropped
    · rename_i stale
      obtain ⟨logged, he⟩ := h.pop_stale hp (by simpa using stale)
      have := ih logged fewer
      rwa [he] at this

theorem shrink_fits (h : c.Logged) (fuel : Nat) (enough : c.records.size ≤ fuel) :
    (Cache.shrink fuel c).1.size ≤ c.capacity := by
  obtain ⟨shrunk, entries, _⟩ := h.shrink fuel enough
  rw [← shrunk.length_entries, entries, List.length_drop, h.length_entries]
  omega

/-- Forgetting stale records is not seen in the list. -/
theorem compact (h : c.Logged) : c.compact.Logged ∧ c.compact.entries = c.entries := by
  rw [Cache.compact]
  split
  · have kept : (c.records.filter c.isCurrent).toList = c.records.toList.filter c.isCurrent :=
      c.records.toList_filter _
    constructor
    · refine ⟨fun key slot found => ?_, ?_, fun r hr => ?_⟩
      · rw [kept, List.mem_filter, ← isSome_entryOf]
        refine ⟨h.recorded key slot found, ?_⟩
        rw [entryOf_eq_some.mpr ⟨slot, found, rfl, rfl⟩]
        rfl
      · rw [kept]
        exact h.ordered.filter _
      · rw [kept] at hr
        exact h.numbered r (List.mem_of_mem_filter hr)
    · rw [entries, entries, kept, List.filterMap_filter]
      refine List.filterMap_congr fun r _ => ?_
      rw [← isSome_entryOf]
      cases hr : c.entryOf r with
      | none => rfl
      | some e => exact hr
  · exact ⟨h, rfl⟩

/-- The records that are left are no more than the entries. -/
theorem compact_short (h : c.Logged) (fits : c.size ≤ c.capacity) :
    c.compact.records.size ≤ 2 * c.capacity := by
  rw [Cache.compact]
  split
  · have current : (fun r => (c.entryOf r).isSome) = c.isCurrent := funext c.isSome_entryOf
    have size := h.length_entries
    rw [entries, List.length_filterMap_eq_countP, current, List.countP_eq_length_filter] at size
    rw [Queue.size_eq_length, Queue.toList_filter, size]
    omega
  · omega

theorem put (h : c.Logged) (now : Nat) (key : String) (credential : Credential) :
    (c.put now key credential).1.Logged ∧
      (c.put now key credential).1.entries =
        (c.appended now key credential).drop
          ((c.appended now key credential).length - c.capacity) := by
  obtain ⟨written, entries⟩ := h.write now key credential
  obtain ⟨shrunk, entries', _⟩ := written.shrink _ (Nat.le_refl _)
  obtain ⟨compacted, entries''⟩ := shrunk.compact
  refine ⟨compacted, ?_⟩
  rw [← entries, written.length_entries]
  exact entries''.trans entries'

end Logged

/-- A cache as the operations leave it: at most as many entries as allowed, and at most twice as
many records. -/
structure WellFormed (c : Cache) : Prop extends c.Logged where
  roomy : 0 < c.capacity
  fits : c.size ≤ c.capacity
  short : c.records.size ≤ 2 * c.capacity

theorem wellFormed_new (ttl capacity : Nat) : (new ttl capacity).WellFormed := by
  refine ⟨⟨fun key slot found => ?_, List.Pairwise.nil, fun r hr => ?_⟩,
    Nat.le_max_right capacity 1, Nat.zero_le _, Nat.zero_le _⟩
  · change (∅ : Std.ExtTreeMap String Slot)[key]? = some slot at found
    rw [Std.ExtTreeMap.getElem?_empty] at found
    cases found
  · exact absurd hr List.not_mem_nil

/-- Keeping the capacity touches the slots and the records alone. -/
theorem shrink_eq (fuel : Nat) (c : Cache) :
    ∃ slots records, (shrink fuel c).1 = { c with slots, records } := by
  induction fuel generalizing c with
  | zero => exact ⟨_, _, rfl⟩
  | succ fuel ih =>
    rw [shrink]
    split
    · exact ⟨_, _, rfl⟩
    split
    · exact ⟨_, _, rfl⟩
    split
    · exact ih _
    · exact ih _

theorem compact_eq (c : Cache) : ∃ records, c.compact = { c with records } := by
  rw [compact]
  split
  · exact ⟨_, rfl⟩
  · exact ⟨_, rfl⟩

theorem put_eq (c : Cache) (now : Nat) (key : String) (credential : Credential) :
    ∃ slots records, (c.put now key credential).1 =
      { c.write now key credential with slots, records } := by
  obtain ⟨slots, records, shrunk⟩ := shrink_eq (c.write now key credential).records.size
    (c.write now key credential)
  obtain ⟨records', compacted⟩ := compact_eq (shrink (c.write now key credential).records.size
    (c.write now key credential)).1
  exact ⟨slots, records', compacted.trans (by rw [shrunk])⟩

theorem ttl_put (c : Cache) (now : Nat) (key : String) (credential : Credential) :
    (c.put now key credential).1.ttl = c.ttl := by
  obtain ⟨_, _, written⟩ := c.put_eq now key credential
  rw [written]
  rfl

theorem Logged.wellFormed_compact {c : Cache} (h : c.Logged) (roomy : 0 < c.capacity)
    (fits : c.size ≤ c.capacity) : c.compact.WellFormed := by
  have compacted := h.compact.1
  have short := h.compact_short fits
  obtain ⟨records, kept⟩ := c.compact_eq
  rw [kept] at compacted short ⊢
  exact ⟨compacted, roomy, fits, short⟩

namespace WellFormed

variable {c : Cache}

theorem remove (h : c.WellFormed) (key : String) : (c.remove key).WellFormed :=
  ⟨(h.toLogged.remove key).1, h.roomy, Nat.le_trans Std.ExtTreeMap.size_erase_le h.fits, h.short⟩

theorem evict (h : c.WellFormed) (key : String) : (c.evict key).1.WellFormed :=
  have removed := h.remove key
  ⟨⟨removed.recorded, removed.ordered, removed.numbered⟩, removed.roomy, removed.fits,
    removed.short⟩

theorem purge (h : c.WellFormed) (now : Nat) : (c.purge now).1.WellFormed :=
  ⟨(h.toLogged.purge now).1, h.roomy, Nat.le_trans Std.ExtTreeMap.size_filter_le_size h.fits,
    h.short⟩

theorem put (h : c.WellFormed) (now : Nat) (key : String) (credential : Credential) :
    (c.put now key credential).1.WellFormed := by
  obtain ⟨written, _⟩ := h.toLogged.write now key credential
  obtain ⟨shrunk, _⟩ := written.shrink _ (Nat.le_refl _)
  have fits := written.shrink_fits _ (Nat.le_refl _)
  obtain ⟨slots, records, kept⟩ := shrink_eq (c.write now key credential).records.size
    (c.write now key credential)
  have capacity := congrArg Cache.capacity kept
  exact shrunk.wellFormed_compact (Nat.lt_of_lt_of_eq h.roomy capacity.symm)
    (Nat.le_trans fits (Nat.le_of_eq capacity.symm))

/-- The entry written last is resident. -/
theorem put_resident (h : c.WellFormed) (now : Nat) (key : String) (credential : Credential) :
    ∃ slot, (c.put now key credential).1.slots[key]? = some slot ∧
      slot.credential = credential ∧ slot.insertedAt = now := by
  obtain ⟨logged, entries⟩ := h.toLogged.put now key credential
  have excess : (c.appended now key credential).length - c.capacity ≤
      (c.entries.filter fun e => e.key ≠ key).length := by
    have roomy := h.roomy
    rw [appended, List.length_append, List.length_singleton]
    omega
  rw [appended] at entries excess
  have last : ⟨key, credential, now⟩ ∈ (c.put now key credential).1.entries := by
    rw [entries, List.drop_append_of_le_length excess]
    exact List.mem_append_right _ (List.mem_singleton_self _)
  obtain ⟨slot, found, shown⟩ := logged.mem_entries.mp last
  exact ⟨slot, found, congrArg CacheEntry.credential shown, congrArg CacheEntry.insertedAt shown⟩

end WellFormed

end Cache

end MemberAuth
