import Lockdown.Bus.Basic
import Lockdown.Field
import Lockdown.Transfer
/-!
Physical memory in bulk and memory-mapped registers. A range that runs past the top of the
address space is refused before any transaction, and so is a register of a size that is no width.
-/
namespace Lockdown

open Text

variable {σ : Type}

def inAddressSpace (address : UInt64) (length : Nat) : Bool := address.toNat + length ≤ UInt64.size

/-- The address so many bytes up, in a transfer of `length` bytes. -/
def chunkAddress (address : UInt64) (offset length : Nat) : Except AccessError UInt64 :=
  if address.toNat + offset < UInt64.size then .ok (address + UInt64.ofNat offset)
  else .error (.addressOverflow address length)

/-- The last byte of a transfer has an address. -/
def checkSpan (address : UInt64) : Nat → Access σ Unit
  | 0 => pure ()
  | last + 1 => Access.ofExcept ((chunkAddress address last (last + 1)).map fun _ => ())

def mmioWidth (size : UInt64) : Except AccessError AccessWidth :=
  match AccessWidth.ofBytes size.toNat with
  | .ok w => .ok w
  | .error _ => .error (.invalidSize .mmio size)

namespace Bus

variable [Bus σ]

def readPhysical (address : UInt64) (length : Nat) : Access σ (List UInt8) := do
  checkSpan address length
  let parts ← (chunkPlan length).mapM fun c => do
    let source ← Access.ofExcept (chunkAddress address c.offset length)
    let value ← memRead source c.width
    return bytesLE c.width.bytes value
  return parts.flatten

def writePhysical (address : UInt64) (data : List UInt8) : Access σ Unit := do
  checkSpan address data.length
  (chunkPlan data.length).forM fun c => do
    let target ← Access.ofExcept (chunkAddress address c.offset data.length)
    memWrite target c.width (unpack (data.drop c.offset) c.width)

def readPhysicalSplit (high low : UInt32) (length : Nat) : Access σ (List UInt8) :=
  readPhysical (joinAddress high low) length

def writePhysicalSplit (high low : UInt32) (data : List UInt8) : Access σ Unit :=
  writePhysical (joinAddress high low) data

def readMmio (address size : UInt64) : Access σ UInt64 := do
  let width ← Access.ofExcept (mmioWidth size)
  let bytes ← readPhysical address width.bytes
  let value := unpack bytes width
  Journal.debug .backend s!"MMIO read: 0x{hex address.toNat} [{size}] = 0x{hex value.toNat}"
  return value

/-- Bits of `value` beyond the size are dropped. -/
def writeMmio (address size value : UInt64) : Access σ Unit := do
  let width ← Access.ofExcept (mmioWidth size)
  Journal.debug .backend s!"MMIO write: 0x{hex address.toNat} [{size}] <- 0x{hex value.toNat}"
  writePhysical address (bytesLE width.bytes (value &&& width.mask))

end Bus

end Lockdown
