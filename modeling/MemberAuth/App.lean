import MemberAuth.Auth.Gate
import MemberAuth.Service
import MemberAuth.Settings.Basic
import MemberAuth.Store.Opening

/-!
The whole application: the service on a store, and the gate with its cache in front of it.
-/
namespace MemberAuth

inductive StartError
  | store (error : Store.OpenError)
  /-- No hashing with these parameters: they are refused, or the first hash breaks off. -/
  | cost
  deriving DecidableEq, Repr

def StartError.message : StartError → String
  | store .io => "IO error"
  | store .json => "JSON error"
  | store .idsExhausted => "no member id is left"
  | cost => Hash.Cost.refusal

/-- Failures that wait for the next store calls of each kind, first come first served. -/
structure Faults where
  onInsert : List Failure
  onFind : List Failure
  onUpdate : List Failure

def Faults.none : Faults :=
  ⟨[], [], []⟩

structure App where
  settings : Settings
  rules : Service.Rules
  shelf : Store.Shelf
  faults : Faults
  gate : Gate
  now : Nat
  /-- The salts for new hashes, in the order in which they are used. -/
  salts : Nat → Hash.Salt
  saltCount : Nat

namespace App

/-- Carries out a script of file steps on the store. -/
def onStore {α : Type} (a : App) (script : Store.FileScript α) : App × α :=
  let (shelf, r) := script.run Store.Shelf.perform a.shelf
  ({ a with shelf }, r)

/-- Carries out one call of the service. A waiting failure takes the place of a store call. -/
def perform : (c : Service.Call) → App → App × c.Reply
  | .find loginId, a =>
    match a.faults.onFind with
    | e :: rest => ({ a with faults := { a.faults with onFind := rest } }, .error e)
    | [] => a.onStore (Store.find loginId)
  | .insert m, a =>
    match a.faults.onInsert with
    | e :: rest => ({ a with faults := { a.faults with onInsert := rest } }, .error e)
    | [] => a.onStore (Store.insert m)
  | .update loginId passwordHash, a =>
    match a.faults.onUpdate with
    | e :: rest => ({ a with faults := { a.faults with onUpdate := rest } }, .error e)
    | [] => a.onStore (Store.update loginId passwordHash)
  | .salt, a => ({ a with saltCount := a.saltCount + 1 }, a.salts a.saltCount)
  | .evict loginId, a =>
    let (gate, removed) := a.gate.evict loginId
    ({ a with gate }, removed)
  | .count k, a => ({ a with gate := a.gate.count k }, ())

def serve {α : Type} (a : App) (script : Service.ServiceScript α) : App × α :=
  script.run perform a

def register (a : App) (r : Registration) : App × Except Failure Member :=
  a.serve (Service.register a.rules r)

def getMember (a : App) (loginId : String) : App × Except Failure Member :=
  a.serve (Service.getMember loginId)

def changePassword (a : App) (loginId current new : String) : App × Except Failure Member :=
  a.serve (Service.changePassword a.rules loginId current new)

def verify (a : App) (loginId password : String) : App × Except VerifyFailure Identity :=
  a.serve (Service.verify a.rules loginId password)

/-- Decides who makes a request. -/
def authenticate (a : App) (loginId password : String) : App × Except AuthFailure Identity :=
  match a.gate.openRequest a.now loginId password with
  | (gate, .decided result) => ({ a with gate }, result)
  | (gate, .pending epoch) =>
    let (a, verdict) := verify { a with gate } loginId password
    let (gate, result) := a.gate.closeRequest a.now loginId password epoch verdict
    ({ a with gate }, result)

def getCached (a : App) (loginId : String) : App × Option Credential :=
  let (gate, slot) := a.gate.get a.now loginId
  ({ a with gate }, slot.map (·.credential))

def purge (a : App) : App × Nat :=
  let (gate, removed) := a.gate.purge a.now
  ({ a with gate }, removed)

def evict (a : App) (loginId : String) : App × Bool :=
  a.perform (.evict loginId)

def advance (a : App) (duration : Nat) : App :=
  { a with now := a.now + duration }

/-- Changes the disk from outside. -/
def onDisk (a : App) (f : Disk → Disk) : App :=
  { a with shelf := { a.shelf with disk := f a.shelf.disk } }

/-- Lets a failure wait. -/
def addFault (a : App) (f : Faults → Faults) : App :=
  { a with faults := f a.faults }

/-- An empty cache. Entries are as long valid and as many as the settings say. -/
def newCache (s : Settings) : Cache :=
  .new (s.cache.ttl * 1000) s.cache.maxEntries

/-- A new application on a disk. The store is opened before the hashing parameters are looked at. A
password that belongs to nobody is hashed at once, so there is no application at a cost at which no
hash can be made. -/
def start (settings : Settings) (disk : Disk) (salts : Nat → Hash.Salt) :
    Except StartError App := do
  let shelf ← (Store.openOn disk 0).2.mapError .store
  match settings.hashCost?.filter (·.fits Hash.largestAllocation) with
  | none => .error .cost
  | some cost =>
    let rules : Service.Rules := ⟨⟨cost⟩, settings.passwordPolicy.characterRule⟩
    .ok ⟨settings, rules, shelf, .none, ⟨newCache settings, .zero⟩, 0, salts, 0⟩

/-- Opens the store again and empties the cache. What was counted, the clock and the failures that
wait stay; the whole application stays if the store does not open. -/
def reopen (a : App) : App × Except Store.OpenError Unit :=
  match Store.openOn a.shelf.disk a.shelf.freshCount with
  | (disk, .error e) => (a.onDisk fun _ => disk, .error e)
  | (_, .ok shelf) =>
    ({ a with shelf, gate := { a.gate with cache := newCache a.settings } }, .ok ())

end App

end MemberAuth
