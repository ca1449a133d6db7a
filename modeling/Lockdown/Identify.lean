import Lockdown.Bus.Config
import Lockdown.Chipset
import Lockdown.Processor
/-! Which chipset a platform has: as its host bridge says, or as the user insists. -/
namespace Lockdown

open Text

structure Identity where
  chipset : Chipset
  vendor : UInt16
  device : UInt16
  /-- Missing when the processor cannot be asked. -/
  cpu : Option CpuSignature

namespace Identify

variable {σ : Type} [Bus σ]

def hostBridge : Access σ (UInt16 × UInt16) := do
  let ids ← Bus.readPci ⟨0, 0, 0, 0⟩ 4
  return (ids.toUInt16, (ids >>> 16).toUInt16)

def identity (c : Chipset) (vendor device : UInt16) : Act σ Identity := do
  return ⟨c, vendor, device, (← Bus.cpuSignature.attempt).toOption⟩

def detect : Access σ Identity := do
  let (vendor, device) ← hostBridge
  Journal.info .chipset
    s!"Host bridge: VID {hexPadded 4 vendor.toNat} DID {hexPadded 4 device.toNat}"
  match Chipset.ofDevice? vendor device with
  | none => throw (.unknownHostBridge vendor device)
  | some c =>
    Journal.info .chipset s!"Detected chipset: {c.name} ({c.code})"
    (identity c vendor device : Act σ Identity)

def force (code : String) : Access σ Identity := do
  match Chipset.ofCode? code with
  | none => throw (.unknownChipset code)
  | some c =>
    let (vendor, device) ← hostBridge
    if !c.matches device then
      Journal.warn .chipset
        s!"Forcing chipset {c.code} on host bridge DID {hexPadded 4 device.toNat}"
    (identity c vendor device : Act σ Identity)

end Identify

def Identity.loadStore {σ : Type} (i : Identity) (overlay : List Register) : Access σ Store := do
  let store ← Access.ofExcept ((i.chipset.store overlay).mapError .definition)
  Journal.info .chipset (s!"Loaded {store.size} register definitions for {i.chipset.name} " ++
    s!"({overlay.length} from overlay)")
  return store

end Lockdown
