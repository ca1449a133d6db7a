import Lockdown.Text.Binary64
/-!
JSON values as they are written: members keep their order and repetitions, numbers their digits,
and a string that spells half a surrogate pair is kept as a text without a value. Compact
printing is the inverse of reading on everything that has a value.
-/
namespace Lockdown

namespace Json

/-- `none` spells half a surrogate pair, which is no character. -/
abbrev Text := Option String

/-- `digits * 10 ^ scale`; a literal without point and exponent has no scale. -/
structure Number where
  negative : Bool
  digits : Nat
  scale : Option Int
  deriving DecidableEq, Repr, Inhabited

namespace Number

def ofNat (n : Nat) : Number := ⟨false, n, none⟩

/-- A sign, a point or an exponent makes a literal no natural number, whatever its value. -/
def natural? (n : Number) : Option Nat :=
  if n.negative then none else match n.scale with
    | none => some n.digits
    | some _ => none

/-- Digits taken one by one while their value fits 64 bits, and how many are left then. -/
def leading : Nat → List Char → Nat × Nat
  | value, [] => (value, 0)
  | value, d :: ds =>
    let next := value * 10 + (d.toNat - '0'.toNat)
    if next < UInt64.size then leading next ds else (value, ds.length + 1)

/-- The largest power of ten that is a double. -/
def maxPower : Int := 308

/-- Is the number in range? The digits that fit 64 bits are rounded to a double, which is then
multiplied by a rounded power of ten; that product decides, and not the exact value. -/
def finite (n : Number) : Bool :=
  let (value, left) := leading 0 (Nat.toDigits 10 n.digits)
  let power := n.scale.getD 0 + left
  if value = 0 || power ≤ 0 then true
  else if maxPower < power then false
  else ((Text.Binary64.ofNat value).times (.ofNat (Nat.pow 10 power.toNat))).isFinite

end Number

end Json

inductive Json where
  | null
  | bool (b : Bool)
  | number (n : Json.Number)
  | string (s : Json.Text)
  | array (items : List Json)
  | object (members : List (Json.Text × Json))
  deriving Repr, Inhabited

namespace Json

def ofString (s : String) : Json := .string (some s)

def ofNat (n : Nat) : Json := .number (.ofNat n)

def ofOption : Option String → Json
  | none => .null
  | some s => ofString s

def record (members : List (String × Json)) : Json :=
  .object (members.map fun (k, v) => (some k, v))

def escape (c : Char) : List Char :=
  if c = '"' then ['\\', '"']
  else if c = '\\' then ['\\', '\\']
  else if c = '\x08' then ['\\', 'b']
  else if c = '\x0c' then ['\\', 'f']
  else if c = '\n' then ['\\', 'n']
  else if c = '\r' then ['\\', 'r']
  else if c = '\t' then ['\\', 't']
  else if c.toNat < 0x20 then '\\' :: 'u' :: '0' :: '0' :: (Text.hexLower 2 c.toNat).toList
  else [c]

def quoted (s : Text) : List Char :=
  match s with
  | none => '"' :: '\\' :: 'u' :: 'd' :: '8' :: '0' :: '0' :: ['"']
  | some s => '"' :: s.toList.flatMap escape ++ ['"']

def Number.chars (n : Number) : List Char :=
  (if n.negative then ['-'] else []) ++ Nat.toDigits 10 n.digits ++
    match n.scale with
    | none => []
    | some e => 'e' :: (toString e).toList

mutual

def chars : Json → List Char
  | .null => ['n', 'u', 'l', 'l']
  | .bool true => ['t', 'r', 'u', 'e']
  | .bool false => ['f', 'a', 'l', 's', 'e']
  | .number n => n.chars
  | .string s => quoted s
  | .array items => '[' :: itemChars items ++ [']']
  | .object members => '\x7b' :: memberChars members ++ ['\x7d']

def itemChars : List Json → List Char
  | [] => []
  | [x] => chars x
  | x :: xs => chars x ++ ',' :: itemChars xs

def memberChars : List (Text × Json) → List Char
  | [] => []
  | [(k, v)] => quoted k ++ ':' :: chars v
  | (k, v) :: ms => quoted k ++ ':' :: chars v ++ ',' :: memberChars ms

end

def text (j : Json) : String := String.ofList j.chars

mutual

def depth : Json → Nat
  | .array items => itemDepth items + 1
  | .object members => memberDepth members + 1
  | _ => 0

def itemDepth : List Json → Nat
  | [] => 0
  | x :: xs => max (depth x) (itemDepth xs)

def memberDepth : List (Text × Json) → Nat
  | [] => 0
  | (_, v) :: ms => max (depth v) (memberDepth ms)

end

mutual

/-- Every string has a value and every number is in range. -/
def sound : Json → Bool
  | .number n => n.finite
  | .string s => s.isSome
  | .array items => itemsSound items
  | .object members => membersSound members
  | _ => true

def itemsSound : List Json → Bool
  | [] => true
  | x :: xs => sound x && itemsSound xs

def membersSound : List (Text × Json) → Bool
  | [] => true
  | (k, v) :: ms => k.isSome && sound v && membersSound ms

end

end Json

end Lockdown
