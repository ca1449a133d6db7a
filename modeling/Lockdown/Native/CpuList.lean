import Lockdown.Text.Blank
import Lockdown.Text.Lines
import Lockdown.Text.Unsigned
/-!
Lists of processors such as `0-3,8-11`: numbers and ranges between commas. A range that runs
down is empty; anything else that is not a number refuses the whole list.
-/
namespace Lockdown

open Text

inductive CpuRange where
  | one (n : UInt32)
  | span (first last : UInt32)
  deriving DecidableEq, Repr

namespace CpuRange

def expand : CpuRange → List UInt32
  | one n => [n]
  | span first last =>
    (List.range (last.toNat + 1 - first.toNat)).map fun i => UInt32.ofNat (first.toNat + i)

def number? (s : List Char) : Option UInt32 := (unsignedBelow? UInt32.size s).map UInt32.ofNat

/-- A range is cut at its first dash. -/
def parse? (part : List Char) : Option CpuRange :=
  match part.span (· ≠ '-') with
  | (first, _ :: last) => do some (span (← number? first) (← number? last))
  | (n, []) => (number? n).map one

end CpuRange

def parseCpuList? (s : String) : Option (List UInt32) :=
  ((splitAtChar ',' (trimmed isBlank s.toList)).mapM CpuRange.parse?).map fun parts =>
    parts.flatMap CpuRange.expand

end Lockdown
