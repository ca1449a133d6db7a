import Lockdown.Chipset.Profile
/-!
Avoton, the Atom C2000. The legacy bridge keeps BIOS control at 0xFC, and the bases of the flash
and root complex registers lie in its config space.
-/
namespace Lockdown

def avotonRegisters : List Register := [
  .pci "BC" 0 31 0 0xFC .byte "BIOS Control" [
    ("BIOSWE", ⟨0, 1, "BIOS Write Enable"⟩),
    ("BLE", ⟨1, 1, "BIOS Lock Enable"⟩),
    ("SMM_BWP", ⟨5, 1, "SMM BIOS Write Protection"⟩)],
  .pci "RCBA" 0 31 0 0xF0 .dword "Root Complex Base Address" [
    ("EN", ⟨0, 1, "Enable"⟩),
    ("BA", ⟨10, 22, "Base Address"⟩)],
  .mmio "RCBA_GCS" ⟨"RCBA", some "BA", none⟩ 0x0 .dword "General Control and Status" [
    ("BILD", ⟨0, 1, "BIOS Interface Lock-Down"⟩)],
  .pci "SBASE" 0 31 0 0x54 .dword "SPI Base Address" [
    ("EN", ⟨1, 1, "Enable"⟩),
    ("BA", ⟨9, 23, "Base Address"⟩)],
  .mmio "HSFS" ⟨"SBASE", some "BA", none⟩ 0x04 .word "Hardware Sequencing Flash Status" [
    ("FDONE", ⟨0, 1, "Flash Cycle Done"⟩),
    ("FCERR", ⟨1, 1, "Flash Cycle Error"⟩),
    ("AEL", ⟨2, 1, "Access Error Log"⟩),
    ("SCIP", ⟨5, 1, "SPI Cycle In Progress"⟩),
    ("FDV", ⟨14, 1, "Flash Descriptor Valid"⟩),
    ("FLOCKDN", ⟨15, 1, "Flash Configuration Lock-Down"⟩)]]

def Chipset.avoton : Chipset where
  code := "avn"
  name := "Avoton"
  hostBridges := [0x1F00, 0x1F01, 0x1F02, 0x1F03, 0x1F04, 0x1F05, 0x1F06, 0x1F07,
    0x1F08, 0x1F09, 0x1F0A, 0x1F0B, 0x1F0C, 0x1F0D, 0x1F0E, 0x1F0F]
  registers := avotonRegisters

end Lockdown
