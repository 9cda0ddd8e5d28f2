import MemberAuth.Text.Decimal
import MemberAuth.Text.Hex

/-!
Socket addresses: an address of the fourth or sixth version of the internet protocol with a port.
-/
namespace MemberAuth.Net

open Text

inductive SocketAddress
  | v4 (octets : List Nat) (port : Nat)
  /-- Eight groups of sixteen bits, and the number of a zone. -/
  | v6 (groups : List Nat) (zone port : Nat)
  deriving DecidableEq, Repr

/-- Digits of a base as a number up to `max`, and what follows. -/
def number? (base max : Nat) (cs : List Char) : Option (Nat × List Char) :=
  let isMember (c : Char) : Bool := (hexValue? c).any (· < base)
  let digits := cs.takeWhile isMember
  let n := digits.foldl (fun n d => n * base + (hexValue? d).getD 0) 0
  if digits.isEmpty || max < n then none else some (n, cs.dropWhile isMember)

/-- A byte in decimal without leading zeros. -/
def octet? (cs : List Char) : Option (Nat × List Char) := do
  let (n, rest) ← number? 10 255 cs
  if cs.length - rest.length = (decimal n).length then some (n, rest) else none

/-- Sixteen bits in at most four hexadecimal digits. -/
def group? (cs : List Char) : Option (Nat × List Char) := do
  let (n, rest) ← number? 16 0xFFFF cs
  if cs.length - rest.length ≤ 4 then some (n, rest) else none

/-- Four octets with dots between them. -/
def octets? (cs : List Char) : Option (List Nat × List Char) := do
  let (a, cs) ← octet? cs
  let (b, cs) ← octet? (← expect? '.' cs)
  let (c, cs) ← octet? (← expect? '.' cs)
  let (d, cs) ← octet? (← expect? '.' cs)
  pure ([a, b, c, d], cs)

/-- Up to `limit` groups with colons between them; four octets may stand for the last two. Also says
whether they do. -/
def groups (first : Bool) : Nat → List Char → List Nat × Bool × List Char
  | 0, cs => ([], false, cs)
  | limit + 1, cs =>
    let next := if first then some cs else expect? ':' cs
    match if limit = 0 then none else next.bind octets? with
    | some ([a, b, c, d], rest) => ([a * 256 + b, c * 256 + d], true, rest)
    | _ =>
      match next.bind group? with
      | none => ([], false, cs)
      | some (g, rest) =>
        let (gs, mapped, rest) := groups false limit rest
        (g :: gs, mapped, rest)

/-- Eight groups, or fewer with two colons for the zeros that are left out. -/
def address6? (cs : List Char) : Option (List Nat × List Char) :=
  let (head, mapped, rest) := groups true 8 cs
  if head.length = 8 then some (head, rest)
  else if mapped then none
  else
    match rest with
    | ':' :: ':' :: rest =>
      let (tail, _, rest) := groups true (7 - head.length) rest
      some (head ++ List.replicate (8 - head.length - tail.length) 0 ++ tail, rest)
    | _ => none

def port? (cs : List Char) : Option (Nat × List Char) := do
  number? 10 65535 (← expect? ':' cs)

/-- The number of a zone after a percent sign, if one follows. -/
def zone? (cs : List Char) : Option (Nat × List Char) :=
  match cs with
  | '%' :: rest => number? 10 0xFFFFFFFF rest
  | _ => some (0, cs)

def parse4? (cs : List Char) : Option (SocketAddress × List Char) := do
  let (octets, cs) ← octets? cs
  let (port, cs) ← port? cs
  pure (.v4 octets port, cs)

def parse6? (cs : List Char) : Option (SocketAddress × List Char) := do
  let (groups, cs) ← address6? (← expect? '[' cs)
  let (zone, cs) ← zone? cs
  let (port, cs) ← port? (← expect? ']' cs)
  pure (.v6 groups zone port, cs)

/-- The start and length of the longest run of zeros, the first of several. -/
def zeroRun (groups : List Nat) : Nat × Nat :=
  let runs := (List.range groups.length).map fun i =>
    (i, ((groups.drop i).takeWhile (· == 0)).length)
  runs.foldl (fun best run => if best.2 < run.2 then run else best) (0, 0)

def joinGroups (groups : List Nat) : List Char :=
  [':'].intercalate (groups.map (Nat.toDigits 16))

/-- The address in its shortest form. A mapped address of the fourth version shows its octets. -/
def address6Text (groups : List Nat) : List Char :=
  match groups with
  | [0, 0, 0, 0, 0, 0xFFFF, x, y] =>
    "::ffff:".toList ++ ['.'].intercalate ([x / 256, x % 256, y / 256, y % 256].map decimal)
  | _ =>
    let (start, length) := zeroRun groups
    if 1 < length then
      joinGroups (groups.take start) ++ [':', ':'] ++ joinGroups (groups.drop (start + length))
    else joinGroups groups

end MemberAuth.Net

namespace MemberAuth.Net.SocketAddress

open Text

def parse? (text : String) : Option SocketAddress :=
  match (parse4? text.toList).or (parse6? text.toList) with
  | some (address, []) => some address
  | _ => none

def toText : SocketAddress → String
  | v4 octets port =>
    String.ofList (['.'].intercalate (octets.map decimal) ++ ':' :: decimal port)
  | v6 groups zone port =>
    let zoneText := if zone = 0 then [] else '%' :: decimal zone
    String.ofList ('[' :: address6Text groups ++ zoneText ++ [']', ':'] ++ decimal port)

end MemberAuth.Net.SocketAddress
