import MemberAuth.Hash.Scrypt
import MemberAuth.Net.Address
import MemberAuth.Password.Policy

/-!
The settings of the service, what they are when nothing is said, and which of them the service can
run with.
-/
namespace MemberAuth

namespace Settings

/-- Times in seconds. -/
structure Cache where
  ttl : Nat := 300
  maxEntries : Nat := 10000
  purgeInterval : Nat := 60
  deriving DecidableEq, Repr

/-- The cost of new password hashes, as it is asked for. -/
structure Hashing where
  logN : Nat := 17
  r : Nat := 8
  p : Nat := 1
  deriving DecidableEq, Repr

structure PasswordPolicy where
  characterRule : CharacterRule := .requireAllClasses
  deriving DecidableEq, Repr

end Settings

structure Settings where
  bindAddress : Net.SocketAddress := .v4 [127, 0, 0, 1] 3000
  dataDirectory : String := "data"
  logLevel : String := "info"
  cache : Settings.Cache := {}
  hashing : Settings.Hashing := {}
  passwordPolicy : Settings.PasswordPolicy := {}
  deriving DecidableEq, Repr

namespace Settings

/-- Why the service cannot run with some settings. -/
inductive Refusal
  | logLevel (level : String)
  | cacheTtl
  | cacheEntries
  | purgeInterval
  | hashCost
  deriving DecidableEq, Repr

def Refusal.message : Refusal → String
  | logLevel level => "invalid log level: " ++ level
  | cacheTtl => "credential_cache.ttl_secs must be positive"
  | cacheEntries => "credential_cache.max_entries must be positive"
  | purgeInterval => "credential_cache.purge_interval_secs must be positive"
  | hashCost => Hash.Cost.refusal

/-- The levels, written in any case. The case of ASCII letters is enough: no other character has one
of the letters in these words as its whole lower case. -/
def isLogLevel (text : String) : Bool :=
  ["trace", "debug", "info", "warn", "error"].contains text.toLower

def hashCost? (s : Settings) : Option Hash.Cost :=
  Hash.Cost.of? s.hashing.logN s.hashing.r s.hashing.p

/-- The first reason not to run with the settings. -/
def validate (s : Settings) : Except Refusal Unit :=
  if !isLogLevel s.logLevel then .error (.logLevel s.logLevel)
  else if s.cache.ttl = 0 then .error .cacheTtl
  else if s.cache.maxEntries = 0 then .error .cacheEntries
  else if s.cache.purgeInterval = 0 then .error .purgeInterval
  else if s.hashCost?.isNone then .error .hashCost
  else .ok ()

end Settings

end MemberAuth
