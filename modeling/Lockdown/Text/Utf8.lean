/-!
UTF-8 read leniently: each longest run of bytes that could still have begun a character, and
did not, becomes one replacement character. And texts cut by counts of their bytes.
-/
namespace Lockdown.Text

/-- The ranges the bytes after a lead byte must lie in; `none` for a byte that leads nothing.
The narrowed second ranges rule out overlong forms, surrogates and numbers past U+10FFFF. -/
def continuations (lead : UInt8) : Option (List (UInt8 × UInt8)) :=
  let tail : UInt8 × UInt8 := (0x80, 0xBF)
  if lead < 0x80 then some []
  else if lead < 0xC2 then none
  else if lead < 0xE0 then some [tail]
  else if lead = 0xE0 then some [(0xA0, 0xBF), tail]
  else if lead = 0xED then some [(0x80, 0x9F), tail]
  else if lead < 0xF0 then some [tail, tail]
  else if lead = 0xF0 then some [(0x90, 0xBF), tail, tail]
  else if lead < 0xF4 then some [tail, tail, tail]
  else if lead = 0xF4 then some [(0x80, 0x8F), tail, tail]
  else none

def matching : List (UInt8 × UInt8) → List UInt8 → Nat
  | (lo, hi) :: ranges, b :: bytes => if lo ≤ b && b ≤ hi then matching ranges bytes + 1 else 0
  | _, _ => 0

def codePoint (lead : UInt8) (rest : List UInt8) : Nat :=
  let top := match rest.length with
    | 0 => lead.toNat
    | 1 => lead.toNat % 0x20
    | 2 => lead.toNat % 0x10
    | _ => lead.toNat % 0x08
  rest.foldl (fun acc b => acc * 0x40 + b.toNat % 0x40) top

def replacement : Char := Char.ofNat 0xFFFD

def lenientChars : List UInt8 → List Char
  | [] => []
  | lead :: bytes =>
    match continuations lead with
    | none => replacement :: lenientChars bytes
    | some ranges =>
      let n := matching ranges bytes
      if n = ranges.length then
        Char.ofNat (codePoint lead (bytes.take n)) :: lenientChars (bytes.drop n)
      else replacement :: lenientChars (bytes.drop n)
termination_by bytes => bytes.length
decreasing_by all_goals simp only [List.length_cons, List.length_drop]; omega

def lenient (bytes : List UInt8) : String := String.ofList (lenientChars bytes)

def strict? (bytes : List UInt8) : Option String := String.fromUTF8? ⟨bytes.toArray⟩

/-- A text without so many of its bytes; `none` if that cuts a character or if there are fewer. -/
def dropBytes? : Nat → List Char → Option (List Char)
  | 0, s => some s
  | _ + 1, [] => none
  | n + 1, c :: s => if c.utf8Size ≤ n + 1 then dropBytes? (n + 1 - c.utf8Size) s else none

def takeBytes? : Nat → List Char → Option (List Char)
  | 0, _ => some []
  | _ + 1, [] => none
  | n + 1, c :: s =>
    if c.utf8Size ≤ n + 1 then (takeBytes? (n + 1 - c.utf8Size) s).map (c :: ·) else none

end Lockdown.Text
