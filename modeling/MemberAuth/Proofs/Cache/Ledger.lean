import MemberAuth.Proofs.Cache.Residency
import MemberAuth.Proofs.Cache.WriteLog

/-!
# The cache as a list in write order

A ledger is the plain reading of the cache: one list of entries, oldest write first, and a count of
the evictions. It has no generations, no queue and no stale records. Asked the same calls at the
same times, the cache and the ledger give the same replies.
-/
namespace MemberAuth

/-- What can be asked of a cache. -/
inductive CacheCall
  | put (key : String) (credential : Credential)
  | putIfUnchanged (key : String) (credential : Credential) (epoch : Nat)
  | get (key : String)
  | evict (key : String)
  | purge
  | size
  | isEmpty
  | epoch

inductive CacheReply
  | done
  | flag (value : Bool)
  | number (value : Nat)
  | found (entry : Option CacheEntry)
  deriving DecidableEq, Repr

structure Ledger where
  ttl : Nat
  capacity : Nat
  /-- In write order, with one entry for each key. -/
  entries : List CacheEntry
  evictions : Nat

namespace Ledger

def new (ttl capacity : Nat) : Ledger :=
  ⟨ttl, max capacity 1, [], 0⟩

def delete (l : Ledger) (key : String) : Ledger :=
  { l with entries := l.entries.filter fun e => e.key ≠ key }

/-- A write goes to the end, and the head makes room for it. -/
def write (l : Ledger) (now : Nat) (key : String) (credential : Credential) : Ledger :=
  let entries := (l.delete key).entries ++ [⟨key, credential, now⟩]
  { l with entries := if l.capacity < entries.length then entries.tail else entries }

def answer (l : Ledger) (now : Nat) : CacheCall → Ledger × CacheReply
  | .put key credential => (l.write now key credential, .done)
  | .putIfUnchanged key credential epoch =>
    if l.evictions = epoch then (l.write now key credential, .flag true) else (l, .flag false)
  | .get key =>
    match l.entries.find? fun e => e.key = key with
    | none => (l, .found none)
    | some e =>
      if now - e.insertedAt < l.ttl then (l, .found (some e)) else (l.delete key, .found none)
  | .evict key =>
    ({ l.delete key with evictions := l.evictions + 1 }, .flag (l.entries.any fun e => e.key = key))
  | .purge =>
    let kept := l.entries.filter fun e => now - e.insertedAt < l.ttl
    ({ l with entries := kept }, .number (l.entries.length - kept.length))
  | .size => (l, .number l.entries.length)
  | .isEmpty => (l, .flag l.entries.isEmpty)
  | .epoch => (l, .number l.evictions)

/-- The replies to calls, each at its own time. -/
def replies (l : Ledger) : List (Nat × CacheCall) → List CacheReply
  | [] => []
  | (now, call) :: rest => (l.answer now call).2 :: (l.answer now call).1.replies rest

end Ledger

namespace Gate

def answer (g : Gate) (now : Nat) : CacheCall → Gate × CacheReply
  | .put key credential => (g.put now key credential, .done)
  | .putIfUnchanged key credential epoch =>
    let (g, written) := g.putIfUnchanged now key credential epoch
    (g, .flag written)
  | .get key =>
    let (g, slot) := g.get now key
    (g, .found (slot.map fun slot => slot.entry key))
  | .evict key =>
    let (g, removed) := g.evict key
    (g, .flag removed)
  | .purge =>
    let (g, removed) := g.purge now
    (g, .number removed)
  | .size => (g, .number g.cache.size)
  | .isEmpty => (g, .flag g.cache.isEmpty)
  | .epoch => (g, .number g.cache.epoch)

def replies (g : Gate) : List (Nat × CacheCall) → List CacheReply
  | [] => []
  | (now, call) :: rest => (g.answer now call).2 :: (g.answer now call).1.replies rest

end Gate

namespace Cache

def ledger (c : Cache) : Ledger :=
  ⟨c.ttl, c.capacity, c.entries, c.epoch⟩

namespace WellFormed

variable {c : Cache}

theorem ledger_remove (h : c.WellFormed) (key : String) :
    (c.remove key).ledger = c.ledger.delete key :=
  congrArg (Ledger.mk c.ttl c.capacity · c.epoch) (h.toLogged.remove key).2

theorem ledger_evict (h : c.WellFormed) (key : String) :
    (c.evict key).1.ledger = { c.ledger.delete key with evictions := c.epoch + 1 } :=
  congrArg (Ledger.mk c.ttl c.capacity · (c.epoch + 1)) (h.toLogged.remove key).2

theorem ledger_put (h : c.WellFormed) (now : Nat) (key : String) (credential : Credential) :
    (c.put now key credential).1.ledger = c.ledger.write now key credential := by
  obtain ⟨slots, records, eq⟩ := c.put_eq now key credential
  have entries := (h.toLogged.put now key credential).2
  have room : (c.appended now key credential).length ≤ c.capacity + 1 := by
    have size := h.toLogged.length_entries
    have fits := h.fits
    have := List.length_filter_le (fun e : CacheEntry => e.key ≠ key) c.entries
    rw [appended, List.length_append, List.length_singleton]
    omega
  have same : (c.put now key credential).1.entries =
      if c.capacity < (c.appended now key credential).length then
        (c.appended now key credential).tail
      else c.appended now key credential := by
    rw [entries]
    split
    · rename_i excess
      have : (c.appended now key credential).length - c.capacity = 1 := by omega
      rw [this, List.drop_one]
    · rename_i fits
      rw [Nat.sub_eq_zero_of_le (Nat.le_of_not_lt fits), List.drop_zero]
  rw [ledger, same, eq]
  rfl

theorem ledger_purge (h : c.WellFormed) (now : Nat) :
    (c.purge now).1.ledger =
      { c.ledger with entries := c.entries.filter fun e => now - e.insertedAt < c.ttl } :=
  congrArg (Ledger.mk c.ttl c.capacity · c.epoch) (h.toLogged.purge now).2

theorem number_purged (h : c.WellFormed) (now : Nat) :
    (c.purge now).2 =
      c.entries.length - (c.entries.filter fun e => now - e.insertedAt < c.ttl).length := by
  rw [← (h.toLogged.purge now).2, ((h.purge now).toLogged).length_entries,
    h.toLogged.length_entries]
  rfl

/-- An eviction finds an entry if the list has one. -/
theorem any_entries (h : c.WellFormed) (key : String) :
    (c.entries.any fun e => e.key = key) = c.slots.contains key := by
  rw [← List.isSome_find?, h.toLogged.find_entries, Option.isSome_map,
    Std.ExtTreeMap.contains_eq_isSome_getElem?]

end WellFormed

end Cache

/-- One call, answered by the cache and by its ledger. -/
structure Gate.Agrees (g : Gate) (now : Nat) (call : CacheCall) : Prop where
  reply : (g.answer now call).2 = (g.cache.ledger.answer now call).2
  ledger : (g.answer now call).1.cache.ledger = (g.cache.ledger.answer now call).1
  wellFormed : (g.answer now call).1.cache.WellFormed

namespace Gate

variable {g : Gate}

theorem agrees_get (h : g.cache.WellFormed) (now : Nat) (key : String) :
    g.Agrees now (.get key) := by
  have found := h.toLogged.find_entries key
  cases hs : g.cache.slots[key]? with
  | none =>
    have own : g.get now key = (g, none) := by
      simp only [Gate.get, Cache.lookup, hs]
    rw [hs] at found
    have plain : g.cache.ledger.answer now (.get key) = (g.cache.ledger, .found none) := by
      simp only [Ledger.answer, Cache.ledger, found, Option.map_none]
    refine ⟨?_, ?_, ?_⟩
    · rw [plain, answer, own]
      rfl
    · rw [plain, answer, own]
    · rw [answer, own]
      exact h
  | some slot =>
    rw [hs] at found
    by_cases old : g.cache.ttl ≤ now - slot.insertedAt
    · have own : g.get now key =
          ({ g with cache := g.cache.remove key }.recordEntries, none) := by
        simp only [Gate.get, Cache.lookup, hs, Cache.isExpired, old, decide_true, if_true]
      have plain : g.cache.ledger.answer now (.get key) =
          (g.cache.ledger.delete key, .found none) := by
        simp only [Ledger.answer, Cache.ledger, found, Option.map_some, Slot.entry,
          Nat.not_lt_of_ge old, if_false]
      refine ⟨?_, ?_, ?_⟩
      · rw [plain, answer, own]
        rfl
      · rw [plain, answer, own]
        exact h.ledger_remove key
      · rw [answer, own]
        exact h.remove key
    · have own : g.get now key = (g, some slot) := by
        simp only [Gate.get, Cache.lookup, hs, Cache.isExpired, old, decide_false]
        rfl
      have plain : g.cache.ledger.answer now (.get key) =
          (g.cache.ledger, .found (some (slot.entry key))) := by
        simp only [Ledger.answer, Cache.ledger, found, Option.map_some, Slot.entry,
          Nat.lt_of_not_le old, if_true]
      refine ⟨?_, ?_, ?_⟩
      · rw [plain, answer, own]
        rfl
      · rw [plain, answer, own]
      · rw [answer, own]
        exact h

theorem agrees_putIfUnchanged (h : g.cache.WellFormed) (now : Nat) (key : String)
    (credential : Credential) (epoch : Nat) :
    g.Agrees now (.putIfUnchanged key credential epoch) := by
  by_cases same : g.cache.epoch = epoch
  · have own : g.putIfUnchanged now key credential epoch = (g.put now key credential, true) :=
      if_pos same
    have plain : g.cache.ledger.answer now (.putIfUnchanged key credential epoch) =
        (g.cache.ledger.write now key credential, .flag true) := if_pos same
    refine ⟨?_, ?_, ?_⟩
    · rw [plain, answer, own]
    · rw [plain, answer, own]
      exact h.ledger_put now key credential
    · rw [answer, own]
      exact h.put now key credential
  · have own : g.putIfUnchanged now key credential epoch = (g, false) := if_neg same
    have plain : g.cache.ledger.answer now (.putIfUnchanged key credential epoch) =
        (g.cache.ledger, .flag false) := if_neg same
    refine ⟨?_, ?_, ?_⟩
    · rw [plain, answer, own]
    · rw [plain, answer, own]
    · rw [answer, own]
      exact h

theorem agrees (h : g.cache.WellFormed) (now : Nat) (call : CacheCall) : g.Agrees now call := by
  cases call with
  | put key credential => exact ⟨rfl, h.ledger_put now key credential, h.put now key credential⟩
  | putIfUnchanged key credential epoch => exact agrees_putIfUnchanged h now key credential epoch
  | get key => exact agrees_get h now key
  | evict key =>
    have cache : (g.answer now (.evict key)).1.cache = (g.cache.evict key).1 := g.cache_evict key
    refine ⟨?_, ?_, ?_⟩
    · have removed : (g.evict key).2 = g.cache.slots.contains key := by
        simp only [Gate.evict]
        split
        · rename_i there
          exact there.symm
        · rename_i absent
          exact (Bool.eq_false_iff.mpr absent).symm
      exact congrArg CacheReply.flag (removed.trans (h.any_entries key).symm)
    · rw [cache]
      exact h.ledger_evict key
    · rw [cache]
      exact h.evict key
  | purge =>
    have cache : (g.answer now .purge).1.cache = (g.cache.purge now).1 := g.cache_purge now
    refine ⟨?_, ?_, ?_⟩
    · have removed : (g.purge now).2 = (g.cache.purge now).2 := by
        simp only [Gate.purge]
        split <;> rfl
      exact congrArg CacheReply.number (removed.trans (h.number_purged now))
    · rw [cache]
      exact h.ledger_purge now
    · rw [cache]
      exact h.purge now
  | size => exact ⟨congrArg CacheReply.number h.toLogged.length_entries.symm, rfl, h⟩
  | isEmpty =>
    have same : g.cache.isEmpty = g.cache.entries.isEmpty := by
      rw [Bool.eq_iff_iff, List.isEmpty_iff_length_eq_zero, h.toLogged.length_entries,
        Cache.isEmpty, Std.ExtTreeMap.isEmpty_eq_size_beq_zero, beq_iff_eq]
      rfl
    exact ⟨congrArg CacheReply.flag same, rfl, h⟩
  | epoch => exact ⟨rfl, rfl, h⟩

theorem replies_eq_ledger (h : g.cache.WellFormed) (calls : List (Nat × CacheCall)) :
    g.replies calls = g.cache.ledger.replies calls := by
  induction calls generalizing g with
  | nil => rfl
  | cons head rest ih =>
    obtain ⟨now, call⟩ := head
    obtain ⟨reply, ledger, wellFormed⟩ := agrees h now call
    rw [replies, Ledger.replies, reply, ih wellFormed, ledger]

/-- A new cache answers any calls at any times as an empty ledger does. -/
theorem new_replies_eq_ledger (ttl capacity : Nat) (calls : List (Nat × CacheCall)) :
    (Gate.new ttl capacity).replies calls = (Ledger.new ttl capacity).replies calls :=
  replies_eq_ledger (Cache.wellFormed_new ttl capacity) calls

end Gate

end MemberAuth
