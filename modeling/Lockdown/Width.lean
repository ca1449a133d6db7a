/-! The four widths a bus transaction or a register can have. -/
namespace Lockdown

inductive AccessWidth where
  | byte
  | word
  | dword
  | qword
  deriving DecidableEq, Repr, Inhabited

structure InvalidWidth where
  bytes : Nat
  deriving DecidableEq, Repr

namespace AccessWidth

def bytes : AccessWidth → Nat
  | byte => 1
  | word => 2
  | dword => 4
  | qword => 8

def bits (w : AccessWidth) : Nat := 8 * w.bytes

def mask : AccessWidth → UInt64
  | byte => 0xFF
  | word => 0xFFFF
  | dword => 0xFFFFFFFF
  | qword => 0xFFFFFFFFFFFFFFFF

def ofBytes : Nat → Except InvalidWidth AccessWidth
  | 1 => .ok byte
  | 2 => .ok word
  | 4 => .ok dword
  | 8 => .ok qword
  | n => .error ⟨n⟩

def descending : List AccessWidth := [qword, dword, word, byte]

@[simp] theorem ofBytes_bytes (w : AccessWidth) : ofBytes w.bytes = .ok w := by
  cases w <;> rfl

theorem bytes_pos (w : AccessWidth) : 0 < w.bytes := by cases w <;> decide

theorem toNat_mask (w : AccessWidth) : w.mask.toNat + 1 = Nat.pow 2 w.bits := by
  cases w <;> decide

end AccessWidth

def InvalidWidth.message (e : InvalidWidth) : String :=
  s!"invalid access width: {e.bytes} bytes"

end Lockdown
