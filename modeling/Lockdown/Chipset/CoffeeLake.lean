import Lockdown.Chipset.Profile
/-!
Coffee Lake, 8th and 9th generation Core with a 300-series controller hub. Flash and power
management have PCI functions of their own, 0:31.5 and 0:31.2, and the memory controller's
registers sit behind a 39-bit base that spans two config dwords.
-/
namespace Lockdown

def coffeeLakeRegisters : List Register := [
  .pci "MCHBAR" 0 0 0 0x48 .dword "MCH Base Address" [
    ("EN", ⟨0, 1, "Enable"⟩),
    ("BA", ⟨15, 17, "Base Address [31:15]"⟩)],
  .pci "MCHBAR_HI" 0 0 0 0x4C .dword "MCH Base Address, upper dword" [
    ("BA", ⟨0, 7, "Base Address [38:32]"⟩)],
  .mmio "REMAPBASE" ⟨"MCHBAR", some "BA", some "MCHBAR_HI"⟩ 0x5090 .qword "Memory Remap Base" [
    ("LOCK", ⟨0, 1, "Lock"⟩),
    ("REMAPBASE", ⟨20, 19, "Remap Base Address"⟩)],
  .pci "ETR3" 0 31 2 0xAC .dword "Extended Test Mode Register 3" [
    ("CF9GR", ⟨20, 1, "CF9h Global Reset"⟩),
    ("CF9LOCK", ⟨31, 1, "CF9h Lockdown"⟩)],
  .pci "GEN_PMCON_1" 0 31 2 0xA0 .dword "General PM Configuration A" [
    ("SMI_LOCK", ⟨4, 1, "SMI Lock"⟩)],
  .pci "BC" 0 31 5 0xDC .dword "BIOS Control" [
    ("BIOSWE", ⟨0, 1, "BIOS Write Enable"⟩),
    ("BLE", ⟨1, 1, "BIOS Lock Enable"⟩),
    ("SRC", ⟨2, 2, "SPI Read Configuration"⟩),
    ("TSS", ⟨4, 1, "Top Swap Status"⟩),
    ("SMM_BWP", ⟨5, 1, "SMM BIOS Write Protection"⟩),
    ("BILD", ⟨7, 1, "BIOS Interface Lock-Down"⟩)],
  .pci "SPIBAR" 0 31 5 0x10 .dword "SPI BAR0" [
    ("MEMSPACE", ⟨0, 1, "Memory Space Indicator"⟩),
    ("BA", ⟨12, 20, "Base Address"⟩)],
  .mmio "HSFS" ⟨"SPIBAR", some "BA", none⟩ 0x04 .dword
    "Hardware Sequencing Flash Status and Control" [
    ("FDONE", ⟨0, 1, "Flash Cycle Done"⟩),
    ("FCERR", ⟨1, 1, "Flash Cycle Error"⟩),
    ("AEL", ⟨2, 1, "Access Error Log"⟩),
    ("SCIP", ⟨5, 1, "SPI Cycle In Progress"⟩),
    ("WRSDIS", ⟨11, 1, "Write Status Disable"⟩),
    ("PRR34_LOCKDN", ⟨12, 1, "PRR3 PRR4 Lock-Down"⟩),
    ("FDOPSS", ⟨13, 1, "Flash Descriptor Override Pin-Strap Status"⟩),
    ("FDV", ⟨14, 1, "Flash Descriptor Valid"⟩),
    ("FLOCKDN", ⟨15, 1, "Flash Configuration Lock-Down"⟩)],
  .pci "GTTMMADR" 0 2 0 0x10 .qword "Graphics Translation Table Memory Mapped Range Address" [
    ("MEMTYP", ⟨1, 2, "Memory Type"⟩),
    ("BA", ⟨24, 15, "Base Address [38:24]"⟩)],
  .mmio "GT_FORCE_WAKE" ⟨"GTTMMADR", some "BA", none⟩ 0xA188 .dword "GT Force Wake request" [
    ("WAKE_REQUEST", ⟨0, 16, "Force wake request bits"⟩),
    ("WAKE_MASK", ⟨16, 16, "Write mask for request bits"⟩)],
  .mmio "GTSP1" ⟨"GTTMMADR", some "BA", none⟩ 0x0D0084 .dword "GT force wake acknowledge" [
    ("WAKE_REQUEST", ⟨0, 16, "Force wake acknowledge bits"⟩)],
  .msr "MSR_BIOS_DONE" 0x151 "BIOS Done" [
    ("IA_UNTRUSTED", ⟨0, 1, "IA Untrusted Mode"⟩),
    ("SOC_BIOS_DONE", ⟨1, 1, "SoC BIOS Done"⟩)]]

def Chipset.coffeeLake : Chipset where
  code := "cfl"
  name := "Coffee Lake"
  hostBridges := [0x3E0F, 0x3E10, 0x3E18, 0x3E1F, 0x3E30, 0x3E31, 0x3E32, 0x3E33,
    0x3EC2, 0x3EC4, 0x3EC6, 0x3ECA, 0x3ECC, 0x3ED0]
  registers := coffeeLakeRegisters

end Lockdown
