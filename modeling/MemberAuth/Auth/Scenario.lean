import MemberAuth.Auth.Gate

/-!
Runs of the credential cache and of decisions over a table of members, on a clock that moves only
when told to. A decision may hold a run of its own, which takes place while the table is being
asked. Purge tasks may run beside the steps: each purges when it is started and then after every
interval, and only the one started last can be stopped.
-/
namespace MemberAuth.Auth

/-- An entry of the table: the password, and who it stands for. -/
structure Account where
  password : String
  identity : Identity
  deriving DecidableEq, Repr

/-- An epoch, or the name under which one was kept. -/
inductive EpochRef
  | number (epoch : Nat)
  | named (name : String)
  deriving DecidableEq, Repr

inductive Step
  | idle
  | put (key : String) (identity : Identity) (password : String)
  /-- Writes the numbered keys from one number up to another that is left out. -/
  | fill (stem : String) (first past : Nat) (password : String)
  | keepEpoch (name : String)
  | putIfUnchanged (key : String) (identity : Identity) (password : String) (epoch : EpochRef)
  | get (key : String)
  | matchPassword (key password : String)
  | evict (key : String)
  | purge
  | info
  | advance (duration : Nat)
  | startPurging (interval : Nat)
  | stopPurging
  | setAccount (key : String) (account : Account)
  | removeAccount (key : String)
  /-- The reason why the table cannot be asked, or nothing. -/
  | setOutage (reason : Option String)
  | authenticate (loginId password : String) (during : List Step)
  deriving Inhabited

/-- A cache entry as it is shown. -/
structure Sighting where
  identity : Identity
  digest : String
  age : Nat
  deriving DecidableEq, Repr

mutual

inductive Outcome
  | done
  | flag (value : Bool)
  | number (value : Nat)
  | unknownEpoch
  | found (sighting : Option Sighting)
  | matched (verdict : Option (Bool × Identity))
  | info (ttl capacity : Nat) (isEmpty : Bool)
  /-- The decision, and what happened meanwhile if the table was asked. -/
  | decided (result : Except AuthFailure Identity) (during : Option (List Report))

/-- The outcome of a step, with the cache size, the epoch and the calls of the table after it. -/
inductive Report
  | mk (outcome : Outcome) (size epoch calls : Nat)

end

structure PurgeTask where
  interval : Nat
  /-- The time of the next purge. -/
  due : Nat
  deriving DecidableEq, Repr

namespace PurgeTask

/-- How many purges fall due up to a time, that time included. -/
def dueCount (t : PurgeTask) (time : Nat) : Nat :=
  if time < t.due then 0 else (time - t.due) / t.interval + 1

/-- The last purge that falls due up to a time. -/
def lastDue? (t : PurgeTask) (time : Nat) : Option Nat :=
  match t.dueCount time with
  | 0 => none
  | n + 1 => some (t.due + n * t.interval)

/-- The task when the purges up to a time are done. -/
def after (t : PurgeTask) (time : Nat) : PurgeTask :=
  { t with due := t.due + t.dueCount time * t.interval }

end PurgeTask

/-- The running purge tasks. -/
structure PurgeTasks where
  /-- The task started last, unless it was stopped. -/
  newest : Option PurgeTask
  /-- Tasks that another one was started after: nothing stops them any more. -/
  lasting : List PurgeTask
  deriving DecidableEq, Repr

namespace PurgeTasks

def toList (ts : PurgeTasks) : List PurgeTask :=
  ts.newest.toList ++ ts.lasting

/-- Starts a task, or nothing in the place of one. -/
def start (ts : PurgeTasks) (task : Option PurgeTask) : PurgeTasks :=
  ⟨task, ts.toList⟩

def stop (ts : PurgeTasks) : PurgeTasks :=
  { ts with newest := none }

/-- The last time up to `time` at which any task purges. -/
def lastDue? (ts : PurgeTasks) (time : Nat) : Option Nat :=
  (ts.toList.filterMap fun t => t.lastDue? time).max?

def after (ts : PurgeTasks) (time : Nat) : PurgeTasks :=
  ⟨ts.newest.map (·.after time), ts.lasting.map (·.after time)⟩

end PurgeTasks

structure State where
  gate : Gate
  now : Nat
  accounts : Std.ExtTreeMap String Account
  outage : Option String
  /-- How often the table was asked. -/
  calls : Nat
  epochs : Std.ExtTreeMap String Nat
  purging : PurgeTasks

namespace State

def new (ttl capacity : Nat) : State :=
  ⟨.new ttl capacity, 0, ∅, none, 0, ∅, ⟨none, []⟩⟩

/-- What the table answers at present. -/
def verdict (s : State) (loginId password : String) : Except VerifyFailure Identity :=
  match s.outage with
  | some reason => .error (.unavailable reason)
  | none =>
    match s.accounts[loginId]? with
    | none => .error .notFound
    | some a => if a.password = password then .ok a.identity else .error .wrongPassword

def epochOf? (s : State) : EpochRef → Option Nat
  | .number epoch => some epoch
  | .named name => s.epochs[name]?

def credential (identity : Identity) (password : String) : Credential :=
  ⟨identity, passwordDigest password⟩

def put (s : State) (key : String) (identity : Identity) (password : String) : State :=
  { s with gate := s.gate.put s.now key (credential identity password) }

def purge (s : State) (time : Nat) : State :=
  { s with gate := (s.gate.purge time).1 }

/-- Lets time pass, with the purges that fall due, the end included. Nothing is written meanwhile,
so the last of these purges removes whatever those before it would have: see
`State.advance_eq_ticks`. -/
def advance (s : State) (duration : Nat) : State :=
  let time := s.now + duration
  let purged := match s.purging.lastDue? time with
    | none => s
    | some due => s.purge due
  { purged with now := time, purging := s.purging.after time }

/-- Purges at once, and from then on after every interval. Without an interval no task is started,
but the one before can still not be stopped any more. -/
def startPurging (s : State) (interval : Nat) : State :=
  if interval = 0 then { s with purging := s.purging.start none }
  else
    { s.purge s.now with purging := s.purging.start (some ⟨interval, s.now + interval⟩) }

/-- The identity that goes with a number is the number itself, as a signed word. -/
def fill (s : State) (stem : String) (first past : Nat) (password : String) : State :=
  (List.range' first (past - first)).foldl
    (fun s (number : Nat) =>
      let key := stem ++ toString number
      s.put key ⟨Int64.ofNat number, key⟩ password) s

def report (s : State) (outcome : Outcome) : Report :=
  .mk outcome s.gate.cache.size s.gate.cache.epoch s.calls

def sighting (s : State) (slot : Slot) : Sighting :=
  ⟨slot.credential.identity, slot.credential.digest, s.now - slot.insertedAt⟩

end State

mutual

/-- Carries out one step. -/
def Step.run (s : State) : Step → State × Outcome
  | .idle => (s, .done)
  | .put key identity password => (s.put key identity password, .done)
  | .fill stem first past password => (s.fill stem first past password, .done)
  | .keepEpoch name =>
    let epoch := s.gate.cache.epoch
    ({ s with epochs := s.epochs.insert name epoch }, .number epoch)
  | .putIfUnchanged key identity password ref =>
    match s.epochOf? ref with
    | none => (s, .unknownEpoch)
    | some epoch =>
      let credential := State.credential identity password
      let (gate, written) := s.gate.putIfUnchanged s.now key credential epoch
      ({ s with gate }, .flag written)
  | .get key =>
    let (gate, slot) := s.gate.get s.now key
    ({ s with gate }, .found (slot.map s.sighting))
  | .matchPassword key password =>
    let (gate, slot) := s.gate.get s.now key
    ({ s with gate }, .matched (slot.map fun slot =>
      (slot.credential.digest == passwordDigest password, slot.credential.identity)))
  | .evict key =>
    let (gate, removed) := s.gate.evict key
    ({ s with gate }, .flag removed)
  | .purge =>
    let (gate, removed) := s.gate.purge s.now
    ({ s with gate }, .number removed)
  | .info => (s, .info s.gate.cache.ttl s.gate.cache.capacity s.gate.cache.isEmpty)
  | .advance duration => (s.advance duration, .done)
  | .startPurging interval => (s.startPurging interval, .done)
  | .stopPurging => ({ s with purging := s.purging.stop }, .done)
  | .setAccount key account => ({ s with accounts := s.accounts.insert key account }, .done)
  | .removeAccount key =>
    ({ s with accounts := s.accounts.erase key }, .flag (s.accounts.contains key))
  | .setOutage reason => ({ s with outage := reason }, .done)
  | .authenticate loginId password during =>
    match s.gate.openRequest s.now loginId password with
    | (gate, .decided result) => ({ s with gate }, .decided result none)
    | (gate, .pending epoch) =>
      let s := { s with gate, calls := s.calls + 1 }
      let verdict := s.verdict loginId password
      let (s, reports) := Step.runAll s during
      let (gate, result) := s.gate.closeRequest s.now loginId password epoch verdict
      ({ s with gate }, .decided result (some reports))

/-- Carries out steps in order, with a report after each. -/
def Step.runAll (s : State) : List Step → State × List Report
  | [] => (s, [])
  | step :: rest =>
    let (s, outcome) := Step.run s step
    let (last, reports) := Step.runAll s rest
    (last, s.report outcome :: reports)

end

end MemberAuth.Auth
