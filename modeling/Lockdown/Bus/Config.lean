import Lockdown.Bus.Basic
import Lockdown.Text.Radix
/-!
Config space in bytes and words. Every access goes through the dword that contains the offset: a
read shifts its bytes down, a write merges them into the old dword and returns what they were.
-/
namespace Lockdown

open Text

/-- The bytes of a dword that offset and size address. A size other than 1 and 2 takes all that
remains after the shift, so an unaligned dword read is cut short. -/
def narrow (dword offset size : UInt32) : UInt32 :=
  let v := dword >>> (offset % 4 * 8)
  if size = 1 then v &&& 0xFF
  else if size = 2 then v &&& 0xFFFF
  else v

/-- `old` with the addressed bytes replaced; a size other than 1 and 2 replaces it whole. -/
def merge (old offset size value : UInt32) : UInt32 :=
  if size = 1 ∨ size = 2 then
    let mask : UInt32 := (if size = 1 then 0xFF else 0xFFFF) <<< (offset % 4 * 8)
    (old &&& ~~~mask) ||| ((value <<< (offset % 4 * 8)) &&& mask)
  else value

variable {σ : Type}

def warnIfOutOfRange (l : PciLocation) : Act σ Unit :=
  if l.inRange then pure ()
  else Journal.warn .backend (
    s!"PCI access {hex l.bus.toNat}:{hex l.device.toNat}.{hex l.function.toNat}" ++
    s!" + 0x{hex l.offset.toNat} out of range; use MMIO to reach extended config space")

def PciLocation.accessText (l : PciLocation) (size : UInt32) : String :=
  s!"{hexPadded 2 l.bus.toNat}:{hexPadded 2 l.device.toNat}.{hex l.function.toNat}" ++
    s!" + 0x{hexPadded 2 l.offset.toNat} [{size}]"

namespace Bus

variable [Bus σ]

def readPci (l : PciLocation) (size : UInt32) : Access σ UInt32 := do
  (warnIfOutOfRange l : Act σ Unit)
  let dword ← pciReadDword l
  let value := narrow dword l.offset size
  Journal.debug .backend s!"PCI read: {l.accessText size} = 0x{hex value.toNat}"
  return value

/-- Returns the previous value of what it replaced. -/
def writePci (l : PciLocation) (value size : UInt32) : Access σ UInt32 := do
  (warnIfOutOfRange l : Act σ Unit)
  let old ← pciReadDword l
  pciWriteDword l (merge old l.offset size value)
  Journal.debug .backend s!"PCI write: {l.accessText size} <- 0x{hex value.toNat}"
  return narrow old l.offset size

end Bus

end Lockdown
