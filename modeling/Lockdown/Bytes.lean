/-! Little-endian bytes of machine words. -/
namespace Lockdown

/-- The low `n` bytes, least significant first. -/
def bytesLE : Nat → UInt64 → List UInt8
  | 0, _ => []
  | n + 1, v => v.toUInt8 :: bytesLE n (v >>> 8)

/-- Bytes past the eighth are shifted out. -/
def ofBytesLE : List UInt8 → UInt64
  | [] => 0
  | b :: bs => b.toUInt64 ||| (ofBytesLE bs <<< 8)

@[simp] theorem length_bytesLE (n : Nat) (v : UInt64) : (bytesLE n v).length = n := by
  induction n generalizing v with
  | zero => rfl
  | succ n ih => simp [bytesLE, ih]

end Lockdown
