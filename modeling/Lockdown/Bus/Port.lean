import Lockdown.Bus.Basic
/-! I/O ports. Sizes other than 1, 2 and 4 are refused before any transaction. -/
namespace Lockdown

open Text

variable {σ : Type}

def portWidth (size : UInt32) : Except AccessError AccessWidth :=
  if size = 1 then .ok .byte
  else if size = 2 then .ok .word
  else if size = 4 then .ok .dword
  else .error (.invalidSize .port size.toUInt64)

namespace Bus

variable [Bus σ]

def readPort (port : UInt16) (size : UInt32) : Access σ UInt32 := do
  let width ← Access.ofExcept (portWidth size)
  let value ← portRead port width
  Journal.debug .backend s!"I/O read: 0x{hex port.toNat} [{size}] = 0x{hex value.toNat}"
  return value

def writePort (port : UInt16) (value size : UInt32) : Access σ Unit := do
  let width ← Access.ofExcept (portWidth size)
  Journal.debug .backend s!"I/O write: 0x{hex port.toNat} [{size}] <- 0x{hex value.toNat}"
  portWrite port width (value &&& width.mask.toUInt32)

end Bus

end Lockdown
