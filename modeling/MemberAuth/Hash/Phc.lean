import MemberAuth.Hash.Scrypt
import MemberAuth.Text.Base64
import MemberAuth.Text.Decimal

/-!
The text in which a password hash is stored: fields that each follow a dollar sign, namely the
algorithm, an optional version, optional parameters, the salt and the output.
-/
namespace MemberAuth.Hash

structure Phc where
  algorithm : List Char
  version : Option Nat
  /-- Names and values, in written order. -/
  parameters : List (List Char × List Char)
  salt : Option (List Char)
  output : Option (List UInt8)

namespace Phc

open Text

def isNameChar (c : Char) : Bool :=
  ('a' ≤ c && c ≤ 'z') || isDigit c || c == '-'

def isValueChar (c : Char) : Bool :=
  isAsciiAlphanumeric c || c == '/' || c == '+' || c == '.' || c == '-'

/-- The name of an algorithm or a parameter. -/
def isName (cs : List Char) : Bool :=
  1 ≤ cs.length && cs.length ≤ 32 && cs.all isNameChar

def isValue (cs : List Char) : Bool :=
  cs.length ≤ 64 && cs.all isValueChar

/-- A number of 32 bits in digits, without a leading zero. -/
def word? (cs : List Char) : Option Nat := do
  let n ← plainDecimal? cs
  if isValue cs && n < UInt32.size then some n else none

def parameter? (field : List Char) : Option (List Char × List Char) :=
  match field.splitOn '=' with
  | [name, value] => if isName name && isValue value then some (name, value) else none
  | _ => none

def parameters? (field : List Char) : Option (List (List Char × List Char)) :=
  if (String.ofList field).utf8ByteSize ≤ 127 then (field.splitOn ',').mapM parameter? else none

def isSalt (cs : List Char) : Bool :=
  4 ≤ cs.length && isValue cs

def output? (cs : List Char) : Option (List UInt8) := do
  let bytes ← Base64.decode cs
  if 10 ≤ bytes.length && bytes.length ≤ 64 then some bytes else none

/-- A field that starts with `v=` and has no comma is the version. -/
def takeVersion : List (List Char) → Option (Option Nat × List (List Char))
  | ('v' :: '=' :: text) :: rest =>
    if text.contains ',' then some (none, ('v' :: '=' :: text) :: rest)
    else (word? text).map fun n => (some n, rest)
  | fields => some (none, fields)

/-- A field with an equals sign holds the parameters. -/
def takeParameters :
    List (List Char) → Option (List (List Char × List Char) × List (List Char))
  | [] => some ([], [])
  | field :: rest =>
    if field.contains '=' then (parameters? field).map fun ps => (ps, rest)
    else some ([], field :: rest)

def takeSalt : List (List Char) → Option (Option (List Char) × Option (List UInt8))
  | [] => some (none, none)
  | [salt] => if isSalt salt then some (some salt, none) else none
  | [salt, out] =>
    if isSalt salt then (output? out).map fun bytes => (some salt, some bytes) else none
  | _ => none

def parse? (text : String) : Option Phc :=
  match text.toList.splitOn '$' with
  | [] :: algorithm :: fields => do
    if !isName algorithm then none
    let (version, fields) ← takeVersion fields
    let (parameters, fields) ← takeParameters fields
    let (salt, output) ← takeSalt fields
    pure ⟨algorithm, version, parameters, salt, output⟩
  | _ => none

/-- The numbers of a cost, as far as parameters have been read. -/
structure Numbers where
  logN : Nat
  r : Nat
  p : Nat

/-- The costs that hold where no parameter says otherwise. -/
def Numbers.standard : Numbers :=
  ⟨17, 8, 1⟩

def Numbers.assign (n : Numbers) (parameter : List Char × List Char) : Option Numbers := do
  let value ← word? parameter.2
  if parameter.1 = ['l', 'n'] then
    if value ≤ 255 then some { n with logN := value } else none
  else if parameter.1 = ['r'] then some { n with r := value }
  else if parameter.1 = ['p'] then some { n with p := value }
  else none

/-- The cost that the parameters name. Of equal names the last one counts. -/
def cost? (h : Phc) : Option Cost := do
  let n ← h.parameters.foldlM Numbers.assign Numbers.standard
  Cost.of? n.logN n.r n.p

def scryptName : List Char :=
  ['s', 'c', 'r', 'y', 'p', 't']

/-- The written form of a scrypt hash. -/
def write (cost : Cost) (salt output : List UInt8) : String :=
  String.ofList (
    '$' :: scryptName ++ ['$', 'l', 'n', '='] ++ decimal cost.logN ++ [',', 'r', '=']
      ++ decimal cost.r ++ [',', 'p', '='] ++ decimal cost.p ++ '$' :: Base64.encode salt
      ++ '$' :: Base64.encode output)

end Phc

end MemberAuth.Hash
