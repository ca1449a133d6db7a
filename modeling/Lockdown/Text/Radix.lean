/-! Numbers as text: upper-case hexadecimal, and padding to a least width. -/
namespace Lockdown.Text

def padLeft (c : Char) (width : Nat) (s : String) : String :=
  String.ofList (List.replicate (width - s.length) c) ++ s

/-- Width counts characters; a longer text is left whole. -/
def padRight (c : Char) (width : Nat) (s : String) : String :=
  s ++ String.ofList (List.replicate (width - s.length) c)

def leftIn (width : Nat) (s : String) : String := padRight ' ' width s

def rightIn (width : Nat) (s : String) : String := padLeft ' ' width s

def hex (n : Nat) : String := String.ofList ((Nat.toDigits 16 n).map Char.toUpper)

def hexPadded (width n : Nat) : String := padLeft '0' width (hex n)

def hexDigit? (c : Char) : Option Nat :=
  if '0' ≤ c ∧ c ≤ '9' then some (c.toNat - '0'.toNat)
  else if 'a' ≤ c ∧ c ≤ 'f' then some (c.toNat - 'a'.toNat + 10)
  else if 'A' ≤ c ∧ c ≤ 'F' then some (c.toNat - 'A'.toNat + 10)
  else none

def hexLower (width n : Nat) : String := padLeft '0' width (String.ofList (Nat.toDigits 16 n))

def decimal (n : Nat) : String := String.ofList (Nat.toDigits 10 n)

def decimalPadded (width n : Nat) : String := padLeft '0' width (decimal n)

end Lockdown.Text
