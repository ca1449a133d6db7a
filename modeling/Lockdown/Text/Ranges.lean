/-! Sets of characters as ranges of their numbers, both ends included. -/
namespace Lockdown.Text

def inRanges (ranges : List (Nat × Nat)) (c : Char) : Bool :=
  ranges.any fun (lo, hi) => lo ≤ c.toNat && c.toNat ≤ hi

end Lockdown.Text
