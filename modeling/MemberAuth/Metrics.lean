/-!
What the system counts. A counter is reported once it has been touched, the gauge once it has been
set.
-/
namespace MemberAuth

inductive Counter
  | cacheHit
  | cacheMiss
  | slowPathSuccess
  | slowPathFailure
  | cacheEvicted
  | capacityEvicted
  | memberRegistered
  | passwordChanged
  deriving DecidableEq, Repr

def Counter.name : Counter → String
  | cacheHit => "auth.cache.hit"
  | cacheMiss => "auth.cache.miss"
  | slowPathSuccess => "auth.slow_path.success"
  | slowPathFailure => "auth.slow_path.failure"
  | cacheEvicted => "auth.cache.evicted"
  | capacityEvicted => "auth.cache.capacity_evicted"
  | memberRegistered => "member.registered"
  | passwordChanged => "member.password_changed"

def Counter.all : List Counter :=
  [cacheHit, cacheMiss, slowPathSuccess, slowPathFailure, cacheEvicted, capacityEvicted,
    memberRegistered, passwordChanged]

structure Metrics where
  cacheHit : Nat
  cacheMiss : Nat
  slowPathSuccess : Nat
  slowPathFailure : Nat
  cacheEvicted : Nat
  capacityEvicted : Nat
  memberRegistered : Nat
  passwordChanged : Nat
  /-- The number of cache entries when it was last recorded. -/
  entries : Option Nat
  deriving DecidableEq, Repr

namespace Metrics

def zero : Metrics :=
  ⟨0, 0, 0, 0, 0, 0, 0, 0, none⟩

def get (m : Metrics) : Counter → Nat
  | .cacheHit => m.cacheHit
  | .cacheMiss => m.cacheMiss
  | .slowPathSuccess => m.slowPathSuccess
  | .slowPathFailure => m.slowPathFailure
  | .cacheEvicted => m.cacheEvicted
  | .capacityEvicted => m.capacityEvicted
  | .memberRegistered => m.memberRegistered
  | .passwordChanged => m.passwordChanged

def add (m : Metrics) (k : Counter) (n : Nat) : Metrics :=
  match k with
  | .cacheHit => { m with cacheHit := m.cacheHit + n }
  | .cacheMiss => { m with cacheMiss := m.cacheMiss + n }
  | .slowPathSuccess => { m with slowPathSuccess := m.slowPathSuccess + n }
  | .slowPathFailure => { m with slowPathFailure := m.slowPathFailure + n }
  | .cacheEvicted => { m with cacheEvicted := m.cacheEvicted + n }
  | .capacityEvicted => { m with capacityEvicted := m.capacityEvicted + n }
  | .memberRegistered => { m with memberRegistered := m.memberRegistered + n }
  | .passwordChanged => { m with passwordChanged := m.passwordChanged + n }

def count (m : Metrics) (k : Counter) : Metrics :=
  m.add k 1

def recordEntries (m : Metrics) (n : Nat) : Metrics :=
  { m with entries := some n }

theorem get_add (m : Metrics) (k j : Counter) (n : Nat) :
    (m.add k n).get j = if j = k then m.get j + n else m.get j := by
  cases k <;> cases j <;> rfl

@[simp] theorem entries_add (m : Metrics) (k : Counter) (n : Nat) :
    (m.add k n).entries = m.entries := by
  cases k <;> rfl

/-- The counters that were touched, with their totals. -/
def counters (m : Metrics) : List (String × Nat) :=
  (Counter.all.map fun k => (k.name, m.get k)).filter fun (_, n) => n != 0

/-- The gauge under its name, if it was set. -/
def gauges (m : Metrics) : List (String × Nat) :=
  (m.entries.map fun n => ("auth.cache.entries", n)).toList

end Metrics

end MemberAuth
