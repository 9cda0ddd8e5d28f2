import MemberAuth.Calendar.Notation
import MemberAuth.Text.Alphanumeric
import MemberAuth.Text.Lowercase
import MemberAuth.Text.Occurrence
import MemberAuth.Text.Quoted
import MemberAuth.Text.Uppercase

/-!
What a new password has to satisfy: eight to sixteen characters, the character rule in force, and no
birth date in one of its digit forms. The first rule that fails is reported.
-/
namespace MemberAuth

inductive CharacterClass
  | uppercase
  | lowercase
  | digit
  | symbol
  deriving DecidableEq, Repr

inductive CharacterRule
  /-- One character of each class at least; none is refused. -/
  | requireAllClasses
  /-- ASCII letters, digits and a fixed set of symbols; no class is asked for. -/
  | allowedSymbolsOnly
  deriving DecidableEq, Repr

inductive PolicyViolation
  | tooShort (min actual : Nat)
  | tooLong (max actual : Nat)
  | missingClass (which : CharacterClass)
  | invalidCharacter (c : Char)
  | containsBirthday
  deriving DecidableEq, Repr

namespace CharacterClass

/-- A digit is one of the ten ASCII digits; the other classes are those of Unicode. -/
def has : CharacterClass → Char → Bool
  | uppercase, c => Text.isUppercase c
  | lowercase, c => Text.isLowercase c
  | digit, c => Text.isDigit c
  | symbol, c => !Text.isAlphanumeric c

def name : CharacterClass → String
  | uppercase => "uppercase letter"
  | lowercase => "lowercase letter"
  | digit => "digit"
  | symbol => "symbol"

/-- Every class, in the order in which a missing one is reported. -/
def all : List CharacterClass :=
  [uppercase, lowercase, digit, symbol]

end CharacterClass

def PolicyViolation.message : PolicyViolation → String
  | tooShort min actual => s!"Password must be at least {min} characters (got {actual})"
  | tooLong max actual => s!"Password must be at most {max} characters (got {actual})"
  | missingClass which => s!"Password must contain at least one {which.name}"
  | invalidCharacter c => s!"Password contains a character that is not allowed: {Text.quoted c}"
  | containsBirthday => "Password must not contain the birth date"

namespace Policy

def minLength : Nat := 8

def maxLength : Nat := 16

/-- The symbols that may stand beside ASCII letters and digits. -/
def allowedSymbols : List Char :=
  "!@#$%^&*()_+-=[]\x7b\x7d;':\"\\|,.<>/?".toList

def isAllowed (c : Char) : Bool :=
  Text.isAsciiAlphanumeric c || allowedSymbols.contains c

/-- Year, month and day; two-digit year, month and day; month and day. -/
def birthdayForms (d : Date) : List (List Char) :=
  let monthDay := Text.padded 2 d.month ++ Text.padded 2 d.day
  [Calendar.yearText d.year ++ monthDay, Text.padded 2 (d.year % 100).toNat ++ monthDay, monthDay]

def checkLength (password : List Char) : Except PolicyViolation Unit :=
  if password.length < minLength then .error (.tooShort minLength password.length)
  else if maxLength < password.length then .error (.tooLong maxLength password.length)
  else .ok ()

def checkClasses (password : List Char) : Except PolicyViolation Unit :=
  match CharacterClass.all.find? fun k => !password.any k.has with
  | some k => .error (.missingClass k)
  | none => .ok ()

def checkAllowed (password : List Char) : Except PolicyViolation Unit :=
  match password.find? fun c => !isAllowed c with
  | some c => .error (.invalidCharacter c)
  | none => .ok ()

def checkCharacters : CharacterRule → List Char → Except PolicyViolation Unit
  | .requireAllClasses => checkClasses
  | .allowedSymbolsOnly => checkAllowed

def checkBirthday (birthDate : Date) (password : List Char) : Except PolicyViolation Unit :=
  if (birthdayForms birthDate).any (Text.occursIn · password) then .error .containsBirthday
  else .ok ()

/-- The first rule that the password breaks, if any. -/
def validate (rule : CharacterRule) (birthDate : Date) (password : String) :
    Except PolicyViolation Unit := do
  let cs := password.toList
  checkLength cs
  checkCharacters rule cs
  checkBirthday birthDate cs

end Policy

end MemberAuth
