import MemberAuth.Cache.Queue
import MemberAuth.Member.Record
import Std.Data.ExtTreeMap

/-!
A bounded cache of verified credentials. An entry expires a fixed time after it was written, however
often it is read. A write beyond the capacity drops the entries written longest ago: a queue of
write records names them, in which the records of entries that are gone or were written again are
stale and are skipped. Each eviction starts a new epoch, and a write can be made to depend on the
epoch in which its credential was checked.
-/
namespace MemberAuth

/-- A verified credential: who it belongs to, and the digest of the password. -/
structure Credential where
  identity : Identity
  digest : String
  deriving DecidableEq, Repr

structure Slot where
  credential : Credential
  /-- In milliseconds, as all times. -/
  insertedAt : Nat
  /-- The number of the write that made this slot. -/
  generation : Nat
  deriving DecidableEq, Repr

/-- One write: the key and the number of the write. -/
structure WriteRecord where
  key : String
  generation : Nat
  deriving DecidableEq, Repr

/-- The numbers of writes and of epochs go on without a bound: runs in which there are 2 ^ 64 writes
or evictions are left out. -/
structure Cache where
  ttl : Nat
  capacity : Nat
  slots : Std.ExtTreeMap String Slot
  /-- In write order, oldest first. -/
  records : Queue WriteRecord
  nextGeneration : Nat
  epoch : Nat

/-- What a look-up finds. -/
inductive Lookup
  | absent
  | expired
  | live (slot : Slot)
  deriving DecidableEq, Repr

namespace Cache

/-- Five minutes. -/
def defaultTtl : Nat := 300000

def defaultCapacity : Nat := 10000

/-- An empty cache. It holds one entry at least, whatever capacity is asked for. -/
def new (ttl capacity : Nat) : Cache :=
  ⟨ttl, max capacity 1, ∅, .empty, 0, 0⟩

/-- The number of resident entries, expired or not. -/
def size (c : Cache) : Nat :=
  c.slots.size

def isEmpty (c : Cache) : Bool :=
  c.slots.isEmpty

/-- Whether a slot is as old as the time to live, or older. -/
def isExpired (c : Cache) (now : Nat) (slot : Slot) : Bool :=
  c.ttl ≤ now - slot.insertedAt

def lookup (c : Cache) (now : Nat) (key : String) : Lookup :=
  match c.slots[key]? with
  | none => .absent
  | some slot => if c.isExpired now slot then .expired else .live slot

def remove (c : Cache) (key : String) : Cache :=
  { c with slots := c.slots.erase key }

/-- Whether a record belongs to the resident entry of its key. -/
def isCurrent (c : Cache) (r : WriteRecord) : Bool :=
  match c.slots[r.key]? with
  | none => false
  | some slot => slot.generation == r.generation

/-- Drops the entries written longest ago until the capacity is kept, and counts them. Each turn
takes one record off the queue, so the number of records is enough fuel. -/
def shrink : Nat → Cache → Cache × Nat
  | 0, c => (c, 0)
  | fuel + 1, c =>
    if c.size ≤ c.capacity then (c, 0)
    else
      match c.records.pop? with
      | none => (c, 0)
      | some (r, records) =>
        if c.isCurrent r then
          let (c, dropped) := shrink fuel { c.remove r.key with records }
          (c, dropped + 1)
        else shrink fuel { c with records }

/-- Forgets the stale records once they may outnumber the entries. -/
def compact (c : Cache) : Cache :=
  if 2 * c.capacity < c.records.size then { c with records := c.records.filter c.isCurrent } else c

/-- Adds an entry as the newest write. -/
def write (c : Cache) (now : Nat) (key : String) (credential : Credential) : Cache :=
  { c with
    slots := c.slots.insert key ⟨credential, now, c.nextGeneration⟩
    records := c.records.push ⟨key, c.nextGeneration⟩
    nextGeneration := c.nextGeneration + 1 }

/-- Writes an entry and keeps the capacity. Also gives the number of entries dropped for it. -/
def put (c : Cache) (now : Nat) (key : String) (credential : Credential) : Cache × Nat :=
  let c := c.write now key credential
  let (c, dropped) := c.shrink c.records.size
  (c.compact, dropped)

/-- Removes an entry whatever its age and starts a new epoch. Also says whether it was there. -/
def evict (c : Cache) (key : String) : Cache × Bool :=
  ({ c.remove key with epoch := c.epoch + 1 }, c.slots.contains key)

/-- Removes every expired entry. Also gives their number. -/
def purge (c : Cache) (now : Nat) : Cache × Nat :=
  let slots := c.slots.filter fun _ slot => !c.isExpired now slot
  ({ c with slots }, c.slots.size - slots.size)

/-- A purge leaves nothing to do of what an earlier one does. -/
theorem purge_purge (c : Cache) {earlier later : Nat} (h : earlier ≤ later) :
    ((c.purge earlier).1.purge later).1 = (c.purge later).1 := by
  simp only [purge, mk.injEq, and_true, true_and]
  refine Std.ExtTreeMap.ext_getElem? fun key => ?_
  simp only [Std.ExtTreeMap.getElem?_filter, Option.pfilter_eq_filter, isExpired,
    Option.filter_filter]
  congr 1
  funext slot
  by_cases hl : c.ttl ≤ later - slot.insertedAt
  · simp [hl]
  · have he : ¬ c.ttl ≤ earlier - slot.insertedAt := by omega
    simp [hl, he]

end Cache

end MemberAuth
