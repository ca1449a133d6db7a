/-! Natural numbers as people write them: decimal digits with an optional plus sign in front. -/
namespace Lockdown.Text

def digits? (s : List Char) : Option Nat :=
  if s ≠ [] ∧ s.all Char.isDigit then some (Nat.ofDigitChars 10 s 0) else none

def unsigned? : List Char → Option Nat
  | '+' :: s => digits? s
  | s => digits? s

def unsignedBelow? (bound : Nat) (s : List Char) : Option Nat :=
  (unsigned? s).filter (· < bound)

end Lockdown.Text
