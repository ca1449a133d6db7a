import Lockdown.Text.Radix
/-! Time spans as text: the largest unit that fits, two decimals, a half to the even neighbour. -/
namespace Lockdown.Text

/-- The quotient rounded to the nearest, a half to even. -/
def roundDiv (num den : Nat) : Nat :=
  let q := num / den
  let r := num % den
  if 2 * r < den then q
  else if 2 * r = den then q + q % 2
  else q + 1

def hundredths (n unit : Nat) : String :=
  let q := roundDiv (n * 100) unit
  decimal (q / 100) ++ "." ++ decimalPadded 2 (q % 100)

def elapsed (nanoseconds : Nat) : String :=
  if 1000000000 ≤ nanoseconds then hundredths nanoseconds 1000000000 ++ "s"
  else if 1000000 ≤ nanoseconds then hundredths nanoseconds 1000000 ++ "ms"
  else if 1000 ≤ nanoseconds then hundredths nanoseconds 1000 ++ "µs"
  else hundredths nanoseconds 1 ++ "ns"

end Lockdown.Text
