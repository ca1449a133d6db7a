import Lockdown.Json.Basic
import Lockdown.Text.Radix
/-!
Reading JSON text. Each scanner takes the characters still to be read and returns what it found
with the rest; the nesting of values is bounded by the length of the text, which is the fuel that
`readFirst?` supplies.
-/
namespace Lockdown.Json

def isBlank (c : Char) : Bool := c = ' ' || c = '\n' || c = '\r' || c = '\t'

def skipBlank (s : List Char) : List Char := s.dropWhile isBlank

def hexUnit? (a b c d : Char) : Option Nat := do
  let (high, low) := ((← Text.hexDigit? a) * 16 + (← Text.hexDigit? b), ← Text.hexDigit? c)
  some (high * 256 + low * 16 + (← Text.hexDigit? d))

def shortEscape? (c : Char) : Option Char :=
  if c = '"' ∨ c = '\\' ∨ c = '/' then some c
  else if c = 'b' then some '\x08'
  else if c = 'f' then some '\x0c'
  else if c = 'n' then some '\n'
  else if c = 'r' then some '\r'
  else if c = 't' then some '\t'
  else none

/-- The 16-bit units of a string after its opening quote, where a raw character stands for
itself. Control characters must be escaped. -/
def scanUnits : List Char → Option (List (Char ⊕ Nat) × List Char)
  | [] => none
  | '"' :: r => some ([], r)
  | '\\' :: 'u' :: a :: b :: c :: d :: r => do
    let u ← hexUnit? a b c d
    let (us, r) ← scanUnits r
    some (.inr u :: us, r)
  | '\\' :: e :: r => do
    let c ← shortEscape? e
    let (us, r) ← scanUnits r
    some (.inl c :: us, r)
  | c :: r =>
    if c.toNat < 0x20 ∨ c = '\\' then none
    else do
      let (us, r) ← scanUnits r
      some (.inl c :: us, r)

def isHigh (u : Nat) : Bool := 0xD800 ≤ u && u < 0xDC00
def isLow (u : Nat) : Bool := 0xDC00 ≤ u && u < 0xE000

/-- A high half must be followed at once by a low half. -/
def joinUnits : List (Char ⊕ Nat) → Option (List Char)
  | [] => some []
  | .inl c :: us => (joinUnits us).map (c :: ·)
  | .inr u :: .inr v :: us =>
    if isHigh u then
      if isLow v then
        (joinUnits us).map (Char.ofNat (0x10000 + (u - 0xD800) * 0x400 + (v - 0xDC00)) :: ·)
      else none
    else if isLow u then none
    else (joinUnits (.inr v :: us)).map (Char.ofNat u :: ·)
  | .inr u :: us =>
    if isHigh u || isLow u then none else (joinUnits us).map (Char.ofNat u :: ·)

def scanString (s : List Char) : Option (Text × List Char) :=
  (scanUnits s).map fun (us, r) => ((joinUnits us).map String.ofList, r)

def digitValue (ds : List Char) : Nat := Nat.ofDigitChars 10 ds 0

def scanFraction : List Char → Option (List Char × List Char)
  | '.' :: r =>
    match r.span Char.isDigit with
    | ([], _) => none
    | (ds, r) => some (ds, r)
  | r => some ([], r)

def scanExponent (s : List Char) : Option (Option Int × List Char) :=
  match s with
  | c :: r =>
    if c = 'e' ∨ c = 'E' then
      let (sign, r) : Int × List Char := match r with
        | '+' :: r => (1, r)
        | '-' :: r => (-1, r)
        | r => (1, r)
      match r.span Char.isDigit with
      | ([], _) => none
      | (ds, r) => some (some (sign * digitValue ds), r)
    else some (none, s)
  | [] => some (none, [])

/-- No leading zeros; digits on both sides of a point. -/
def scanNumber (s : List Char) : Option (Number × List Char) := do
  let (negative, s) := match s with
    | '-' :: r => (true, r)
    | r => (false, r)
  let (whole, r) := s.span Char.isDigit
  if whole.isEmpty || (whole.head? = some '0' && whole.length ≠ 1) then none
  else
    let (part, r') ← scanFraction r
    let (exponent, r'') ← scanExponent r'
    if part.isEmpty && exponent.isNone then some (⟨negative, digitValue whole, none⟩, r'')
    else some (⟨negative, digitValue (whole ++ part), some (exponent.getD 0 - part.length)⟩, r'')

mutual

def scanValue : Nat → List Char → Option (Json × List Char)
  | 0, _ => none
  | n + 1, s =>
    match skipBlank s with
    | 'n' :: 'u' :: 'l' :: 'l' :: r => some (.null, r)
    | 't' :: 'r' :: 'u' :: 'e' :: r => some (.bool true, r)
    | 'f' :: 'a' :: 'l' :: 's' :: 'e' :: r => some (.bool false, r)
    | '"' :: r => (scanString r).map fun (t, r) => (.string t, r)
    | '[' :: r =>
      match skipBlank r with
      | ']' :: r => some (.array [], r)
      | r => (scanItems n r).map fun (xs, r) => (.array xs, r)
    | '\x7b' :: r =>
      match skipBlank r with
      | '\x7d' :: r => some (.object [], r)
      | r => (scanMembers n r).map fun (ms, r) => (.object ms, r)
    | r => (scanNumber r).map fun (x, r) => (.number x, r)

def scanItems : Nat → List Char → Option (List Json × List Char)
  | 0, _ => none
  | n + 1, s => do
    let (x, r) ← scanValue n s
    match skipBlank r with
    | ']' :: r => some ([x], r)
    | ',' :: r =>
      let (xs, r) ← scanItems n r
      some (x :: xs, r)
    | _ => none

def scanMembers : Nat → List Char → Option (List (Text × Json) × List Char)
  | 0, _ => none
  | n + 1, s =>
    match skipBlank s with
    | '"' :: r => do
      let (k, r) ← scanString r
      match skipBlank r with
      | ':' :: r =>
        let (v, r) ← scanValue n r
        match skipBlank r with
        | '\x7d' :: r => some ([(k, v)], r)
        | ',' :: r =>
          let (ms, r) ← scanMembers n r
          some ((k, v) :: ms, r)
        | _ => none
      | _ => none
    | _ => none

end

/-- The first value of a text and what follows it. Every call reads a character first, so the
length of the text is fuel enough. -/
def readFirst? (s : List Char) : Option (Json × List Char) := scanValue (s.length + 1) s

/-- A text holds one value and blanks around it. -/
def read? (s : String) : Option Json := do
  let (j, r) ← readFirst? s.toList
  if (skipBlank r).isEmpty then some j else none

end Lockdown.Json
