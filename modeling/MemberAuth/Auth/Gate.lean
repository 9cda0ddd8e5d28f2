import MemberAuth.Cache.Basic
import MemberAuth.Failure
import MemberAuth.Metrics
import MemberAuth.Password.Digest
import MemberAuth.Text.Blank

/-!
Deciding who makes a request. A cached credential settles it if the digest of the password is the
same; otherwise the stored members are asked, and what they confirm is cached unless an entry was
evicted in the meantime. The decision is made in two steps, with the asking between them.
-/
namespace MemberAuth

inductive AuthFailure
  | missingCredentials
  /-- The same for unknown login ids, wrong passwords and stores that do not answer. -/
  | authenticationFailed
  deriving DecidableEq, Repr

def AuthFailure.toFailure : AuthFailure → Failure
  | missingCredentials => .missingCredentials
  | authenticationFailed => .authenticationFailed

def AuthFailure.message (f : AuthFailure) : String :=
  f.toFailure.message

/-- The credential cache and what is counted about it. -/
structure Gate where
  cache : Cache
  metrics : Metrics

/-- How far the first step of a decision gets. -/
inductive Opening
  | decided (result : Except AuthFailure Identity)
  /-- The stored members have to be asked; the epoch is the one before they are. -/
  | pending (epoch : Nat)

namespace Gate

def new (ttl capacity : Nat) : Gate :=
  ⟨.new ttl capacity, .zero⟩

def count (g : Gate) (k : Counter) : Gate :=
  { g with metrics := g.metrics.count k }

def recordEntries (g : Gate) : Gate :=
  { g with metrics := g.metrics.recordEntries g.cache.size }

/-- A live entry. An expired one is dropped and counts as absent. -/
def get (g : Gate) (now : Nat) (key : String) : Gate × Option Slot :=
  match g.cache.lookup now key with
  | .absent => (g, none)
  | .expired => ({ g with cache := g.cache.remove key }.recordEntries, none)
  | .live slot => (g, some slot)

def put (g : Gate) (now : Nat) (key : String) (credential : Credential) : Gate :=
  let (cache, dropped) := g.cache.put now key credential
  Gate.recordEntries ⟨cache, g.metrics.add .capacityEvicted dropped⟩

/-- Writes if no eviction has happened since the epoch was read. Also says whether it did. -/
def putIfUnchanged (g : Gate) (now : Nat) (key : String) (credential : Credential)
    (epoch : Nat) : Gate × Bool :=
  if g.cache.epoch = epoch then (g.put now key credential, true) else (g, false)

def evict (g : Gate) (key : String) : Gate × Bool :=
  let (cache, removed) := g.cache.evict key
  if removed then ((Gate.count ⟨cache, g.metrics⟩ .cacheEvicted).recordEntries, true)
  else (⟨cache, g.metrics⟩, false)

def purge (g : Gate) (now : Nat) : Gate × Nat :=
  let (cache, removed) := g.cache.purge now
  if 0 < removed then (Gate.recordEntries ⟨cache, g.metrics⟩, removed)
  else (⟨cache, g.metrics⟩, removed)

/-- The first step: blank input is refused, and a live entry with the same digest decides. -/
def openRequest (g : Gate) (now : Nat) (loginId password : String) : Gate × Opening :=
  if Text.allBlank loginId || Text.allBlank password then
    (g, .decided (.error .missingCredentials))
  else
    match g.get now loginId with
    | (g, some slot) =>
      if slot.credential.digest = passwordDigest password then
        (g.count .cacheHit, .decided (.ok slot.credential.identity))
      else (g.count .cacheMiss, .pending g.cache.epoch)
    | (g, none) => (g.count .cacheMiss, .pending g.cache.epoch)

/-- The second step, with the answer of the stored members. -/
def closeRequest (g : Gate) (now : Nat) (loginId password : String) (epoch : Nat)
    (verdict : Except VerifyFailure Identity) : Gate × Except AuthFailure Identity :=
  match verdict with
  | .ok identity =>
    let (g, _) := (g.count .slowPathSuccess).putIfUnchanged now loginId
      ⟨identity, passwordDigest password⟩ epoch
    (g, .ok identity)
  | .error _ => (g.count .slowPathFailure, .error .authenticationFailed)

end Gate

end MemberAuth
