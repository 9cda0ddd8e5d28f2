import Mathlib.Data.Finset.Card
import MemberAuth.Proofs.Cache.Upkeep

/-!
# How long an entry stays

An entry leaves the ledger when it is evicted, written again or found expired, or when it is the
oldest one and a write makes too many. What stands behind an entry was written after it, under keys
that differ from each other. So the entry is not the oldest of too many before as many other keys
have been written as the ledger has room for.
-/
namespace MemberAuth

/-- The key that a call writes at an epoch, if it writes. -/
def CacheCall.writes? (epoch : Nat) : CacheCall → Option String
  | put key _ => some key
  | putIfUnchanged key _ expected => if epoch = expected then some key else none
  | _ => none

namespace Ledger

/-- The entry is there, and behind it there are only entries under these keys. -/
structure Stands (l : Ledger) (e : CacheEntry) (others : Finset String) : Prop where
  keys : (l.entries.map CacheEntry.key).Nodup
  split : ∃ older later, l.entries = older ++ e :: later ∧ ∀ d ∈ later, d.key ∈ others

/-- Time to live and capacity are never changed. -/
theorem answer_fixed (l : Ledger) (now : Nat) (call : CacheCall) :
    (l.answer now call).1.ttl = l.ttl ∧ (l.answer now call).1.capacity = l.capacity := by
  cases call with
  | putIfUnchanged key credential epoch =>
    rw [answer]
    split
    · exact ⟨rfl, rfl⟩
    · exact ⟨rfl, rfl⟩
  | get key =>
    rw [answer]
    split
    · exact ⟨rfl, rfl⟩
    split
    · exact ⟨rfl, rfl⟩
    · exact ⟨rfl, rfl⟩
  | _ => exact ⟨rfl, rfl⟩

variable {l : Ledger} {e : CacheEntry} {others : Finset String} {now : Nat}

namespace Stands

theorem mem (h : l.Stands e others) : e ∈ l.entries := by
  obtain ⟨older, later, entries, _⟩ := h.split
  rw [entries]
  exact List.mem_append_right older List.mem_cons_self

theorem filter (h : l.Stands e others) {keep : CacheEntry → Bool} (kept : keep e = true)
    (evictions : Nat) :
    Stands { l with entries := l.entries.filter keep, evictions } e others := by
  obtain ⟨older, later, entries, behind⟩ := h.split
  constructor
  · exact (List.filter_sublist.map CacheEntry.key).nodup h.keys
  · refine ⟨older.filter keep, later.filter keep, ?_, fun d hd => behind d (List.mem_of_mem_filter hd)⟩
    change l.entries.filter keep = _
    rw [entries, List.filter_append, List.filter_cons_of_pos kept]

theorem delete (h : l.Stands e others) {key : String} (other : e.key ≠ key) :
    (l.delete key).Stands e others :=
  h.filter (decide_eq_true other) l.evictions

theorem appended (h : l.Stands e others) {key : String} (other : e.key ≠ key)
    (known : key ∈ others) (credential : Credential) :
    Stands { l with entries := l.appended now key credential } e others := by
  obtain ⟨older, later, entries, behind⟩ := (h.delete other).split
  constructor
  · exact nodup_appended h.keys now key credential
  · refine ⟨older, later ++ [⟨key, credential, now⟩], ?_, ?_⟩
    · change l.appended now key credential = _
      rw [Ledger.appended, entries, List.append_assoc, List.cons_append]
    · intro d hd
      rcases List.mem_append.mp hd with old | new
      · exact behind d old
      · rw [List.mem_singleton.mp new]
        exact known

/-- With fewer keys behind it than there is room for, the entry is not the first of too many. -/
theorem trimmed (h : l.Stands e others) (room : others.card < l.capacity) :
    Stands { l with entries := Ledger.trimmed l.capacity l.entries } e others := by
  rw [Ledger.trimmed]
  split
  · rename_i excess
    obtain ⟨older, later, entries, behind⟩ := h.split
    cases older with
    | nil =>
      have distinct : (later.map CacheEntry.key).Nodup := by
        have keys := h.keys
        rw [entries, List.nil_append, List.map_cons, List.nodup_cons] at keys
        exact keys.2
      have known : (later.map CacheEntry.key).toFinset ⊆ others := by
        intro key hkey
        obtain ⟨d, hd, rfl⟩ := List.mem_map.mp (List.mem_toFinset.mp hkey)
        exact behind d hd
      have few := Finset.card_le_card known
      rw [List.toFinset_card_of_nodup distinct, List.length_map] at few
      rw [entries, List.nil_append, List.length_cons] at excess
      omega
    | cons first older =>
      constructor
      · exact ((List.tail_sublist l.entries).map CacheEntry.key).nodup h.keys
      · refine ⟨older, later, ?_, behind⟩
        change l.entries.tail = _
        rw [entries]
        rfl
  · exact h

theorem write (h : l.Stands e others) (room : others.card < l.capacity) {key : String}
    (other : e.key ≠ key) (known : key ∈ others) (credential : Credential) :
    (l.write now key credential).Stands e others :=
  (h.appended other known credential).trimmed room

/-- A call leaves the entry where it is unless it evicts it, writes it again, comes too late or
writes a key too many. -/
theorem answer (h : l.Stands e others) (room : others.card < l.capacity) {call : CacheCall}
    (young : now - e.insertedAt < l.ttl) (spared : call ≠ .evict e.key)
    (apart : call.writes? l.evictions ≠ some e.key)
    (known : ∀ key, call.writes? l.evictions = some key → key ∈ others) :
    (l.answer now call).1.Stands e others := by
  cases call with
  | put key credential =>
    apply h.write room _ (known key rfl)
    intro same
    exact apart (congrArg some same.symm)
  | putIfUnchanged key credential epoch =>
    by_cases current : l.evictions = epoch
    · have writes : CacheCall.writes? l.evictions (.putIfUnchanged key credential epoch) = some key :=
        if_pos current
      rw [Ledger.answer, if_pos current]
      apply h.write room _ (known key writes)
      intro same
      exact apart (same ▸ writes)
    · rw [Ledger.answer, if_neg current]
      exact h
  | get key =>
    rw [Ledger.answer]
    split
    · exact h
    rename_i found look
    split
    · exact h
    rename_i expired
    apply h.delete
    intro same
    -- What a look-up removes under the key of the entry would be the entry itself.
    have own := List.find?_some look
    rw [decide_eq_true_eq] at own
    have there := List.mem_of_find?_eq_some look
    obtain rfl := List.inj_on_of_nodup_map h.keys there h.mem (own.trans same.symm)
    exact expired young
  | evict key =>
    refine h.filter (decide_eq_true ?_) (l.evictions + 1)
    intro same
    exact spared (congrArg CacheCall.evict same.symm)
  | purge => exact h.filter (decide_eq_true young) l.evictions
  | size => exact h
  | isEmpty => exact h
  | epoch => exact h

end Stands

/-- An entry stands from its write on. -/
theorem stands_write (keys : (l.entries.map CacheEntry.key).Nodup)
    (room : others.card < l.capacity) (now : Nat) (key : String) (credential : Credential) :
    (l.write now key credential).Stands ⟨key, credential, now⟩ others := by
  have last : Stands { l with entries := l.appended now key credential }
      ⟨key, credential, now⟩ others := by
    constructor
    · exact nodup_appended keys now key credential
    · exact ⟨_, [], rfl, by simp⟩
  exact last.trimmed room

end Ledger

end MemberAuth
