import Lockdown.Access
import Lockdown.Pci
import Lockdown.Width
/-!
The single transactions that an environment can perform. Everything above them, from narrow
config reads to register names, is written once for all environments.
-/
namespace Lockdown

structure CpuidRegisters where
  eax : UInt32
  ebx : UInt32
  ecx : UInt32
  edx : UInt32
  deriving DecidableEq, Repr, Inhabited

/-- Services that an environment may lack. -/
inductive Capability where
  | allocPhysMem
  | sendSwSmi
  | getEfiVariable
  | getAcpiTable
  | msgbusRead
  | msgbusWrite
  | loadUcodeUpdate
  | getDescriptorTable
  deriving DecidableEq, Repr

def Capability.api : Capability → String
  | allocPhysMem => "alloc_phys_mem"
  | sendSwSmi => "send_sw_smi"
  | getEfiVariable => "get_efi_variable"
  | getAcpiTable => "get_acpi_table"
  | msgbusRead => "msgbus_read"
  | msgbusWrite => "msgbus_write"
  | loadUcodeUpdate => "load_ucode_update"
  | getDescriptorTable => "get_descriptor_table"

def Capability.lacking {σ α : Type} (c : Capability) : Act σ (Option α) := do
  Journal.error .backend s!"[backend] API {c.api}() is not supported"
  return none

class Bus (σ : Type) where
  name : String
  /-- The config dword that contains the offset. -/
  pciReadDword : PciLocation → Access σ UInt32
  pciWriteDword : PciLocation → UInt32 → Access σ Unit
  /-- One transaction of this width. -/
  memRead : UInt64 → AccessWidth → Access σ UInt64
  memWrite : UInt64 → AccessWidth → UInt64 → Access σ Unit
  portRead : UInt16 → AccessWidth → Access σ UInt32
  portWrite : UInt16 → AccessWidth → UInt32 → Access σ Unit
  /-- Thread, register. -/
  msrRead : UInt32 → UInt32 → Access σ UInt64
  msrWrite : UInt32 → UInt32 → UInt64 → Access σ Unit
  crRead : UInt32 → UInt32 → Access σ UInt64
  crWrite : UInt32 → UInt32 → UInt64 → Access σ Unit
  /-- Thread, leaf, subleaf. -/
  cpuidOn : UInt32 → UInt32 → UInt32 → Access σ CpuidRegisters
  threadCount : σ → UInt32
  threadEnabled : σ → UInt32 → Bool
  efiSupported : σ → Bool := fun _ => false
  acpiTable : String → Act σ (Option (List UInt8)) := fun _ => Capability.getAcpiTable.lacking

end Lockdown
