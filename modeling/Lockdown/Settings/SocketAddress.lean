import Lockdown.Text.Radix
/-!
Addresses to serve at, as text: four octets or eight groups, and a port. Octets have no leading
zeros; in the groups one run of zeros may be left out, and the longest such run is.
-/
namespace Lockdown

inductive SocketAddress where
  | v4 (octets : Vector UInt8 4) (port : UInt16)
  | v6 (groups : Vector UInt16 8) (scope : UInt32) (port : UInt16)
  deriving DecidableEq, Repr

namespace SocketAddress

open Text

abbrev Scan (α : Type) := List Char → Option (α × List Char)

def char (c : Char) : Scan Unit
  | d :: s => if c = d then some ((), s) else none
  | [] => none

def digit? (c : Char) : Option Nat :=
  if c.isDigit then some (c.toNat - '0'.toNat)
  else if 'a' ≤ c ∧ c ≤ 'f' then some (c.toNat - 'a'.toNat + 10)
  else if 'A' ≤ c ∧ c ≤ 'F' then some (c.toNat - 'A'.toNat + 10)
  else none

def isDigitOf (base : Nat) (c : Char) : Bool := (digit? c).any (· < base)

def digitsValue (base : Nat) (ds : List Char) : Nat :=
  ds.foldl (fun n c => n * base + (digit? c).getD 0) 0

def number (base bound : Nat) : Scan Nat := fun s =>
  let (ds, r) := s.span (isDigitOf base)
  let n := digitsValue base ds
  if ds.isEmpty || bound ≤ n then none else some (n, r)

def octet : Scan UInt8 := fun s =>
  let ds := s.takeWhile (isDigitOf 10)
  if 3 < ds.length || (1 < ds.length && ds.head? = some '0') then none
  else (number 10 UInt8.size s).map fun (n, r) => (UInt8.ofNat n, r)

def group : Scan UInt16 := fun s =>
  if 4 < (s.takeWhile (isDigitOf 16)).length then none
  else (number 16 UInt16.size s).map fun (n, r) => (UInt16.ofNat n, r)

def octets : Scan (Vector UInt8 4) := fun s => do
  let (a, s) ← octet s
  let ((), s) ← char '.' s
  let (b, s) ← octet s
  let ((), s) ← char '.' s
  let (c, s) ← octet s
  let ((), s) ← char '.' s
  let (d, s) ← octet s
  some (#v[a, b, c, d], s)

def pair (high low : UInt8) : UInt16 := (high.toUInt16 <<< 8) ||| low.toUInt16

def octetGroups (o : Vector UInt8 4) : List UInt16 :=
  [pair o[0] o[1], pair o[2] o[3]]

def separated {α : Type} (first : Bool) (scan : Scan α) : Scan α := fun s =>
  if first then scan s else (char ':' s).bind fun ((), s) => scan s

/-- As many groups as there are, up to a limit. Octets may stand for the last two of them, which
the second value tells. -/
def groups : Nat → Bool → List Char → List UInt16 × Bool × List Char
  | 0, _, s => ([], false, s)
  | n + 1, first, s =>
    match if n = 0 then none else separated first octets s with
    | some (o, s) => (octetGroups o, true, s)
    | none =>
      match separated first group s with
      | some (g, s) =>
        let (gs, closed, s) := groups n false s
        (g :: gs, closed, s)
      | none => ([], false, s)

def ofGroups? (gs : List UInt16) : Option (Vector UInt16 8) :=
  if h : gs.length = 8 then some ⟨gs.toArray, by simpa using h⟩ else none

/-- Two colons stand for at least one group of zeros. -/
def address6 : Scan (Vector UInt16 8) := fun s =>
  let (head, closed, s) := groups 8 true s
  if head.length = 8 then (ofGroups? head).map (·, s)
  else if closed then none
  else do
    let ((), s) ← char ':' s
    let ((), s) ← char ':' s
    let (tail, _, s) := groups (7 - head.length) true s
    let zeros := List.replicate (8 - head.length - tail.length) 0
    some (← ofGroups? (head ++ zeros ++ tail), s)

def portNumber : Scan UInt16 := fun s => do
  let ((), s) ← char ':' s
  let (n, s) ← number 10 UInt16.size s
  some (UInt16.ofNat n, s)

def scopeNumber : Scan UInt32 := fun s => do
  let ((), s) ← char '%' s
  let (n, s) ← number 10 UInt32.size s
  some (UInt32.ofNat n, s)

def scan4 : Scan SocketAddress := fun s => do
  let (o, s) ← octets s
  let (p, s) ← portNumber s
  some (.v4 o p, s)

def scan6 : Scan SocketAddress := fun s => do
  let ((), s) ← char '[' s
  let (gs, s) ← address6 s
  let (scope, s) := (scopeNumber s).getD (0, s)
  let ((), s) ← char ']' s
  let (p, s) ← portNumber s
  some (.v6 gs scope p, s)

def parse? (text : String) : Option SocketAddress :=
  match scan4 text.toList <|> scan6 text.toList with
  | some (a, []) => some a
  | _ => none

def octetsText (o : Vector UInt8 4) : String := ".".intercalate (o.toList.map toString)

def groupText (g : UInt16) : String := hexLower 1 g.toNat

def joined (gs : List UInt16) : String := ":".intercalate (gs.map groupText)

/-- Start and length of the first longest run of zeros. -/
def zeroRun (gs : List UInt16) : Nat × Nat :=
  (List.range gs.length).foldl (fun best i =>
    let n := ((gs.drop i).takeWhile (· = 0)).length
    if best.2 < n then (i, n) else best) (0, 0)

def groupsText (gs : List UInt16) : String :=
  let (start, n) := zeroRun gs
  if n ≤ 1 then joined gs else joined (gs.take start) ++ "::" ++ joined (gs.drop (start + n))

def address6Text (v : Vector UInt16 8) : String :=
  match v.toList with
  | [0, 0, 0, 0, 0, 0xFFFF, a, b] =>
    s!"::ffff:{a / 256}.{a % 256}.{b / 256}.{b % 256}"
  | gs => groupsText gs

def text : SocketAddress → String
  | v4 o p => s!"{octetsText o}:{p}"
  | v6 gs scope p =>
    let zone := if scope = 0 then "" else s!"%{scope}"
    s!"[{address6Text gs}{zone}]:{p}"

end SocketAddress

end Lockdown
