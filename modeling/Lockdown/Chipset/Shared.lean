import Lockdown.Register
/-!
Registers that all supported platforms share: architectural model-specific registers, the host
bridge, and the legacy command port. A chipset may define any of them anew.
-/
namespace Lockdown

/-- The host bridge is 0:0.0 and the bridge to legacy devices 0:31.0. -/
def sharedRegisters : List Register := [
  .pci "PCI0.0.0_VID_DID" 0 0 0 0x00 .dword "Host Bridge Vendor/Device ID" [
    ("VID", ⟨0, 16, "Vendor ID"⟩),
    ("DID", ⟨16, 16, "Device ID"⟩)],
  .pci "PCI0.0.0_TSEGMB" 0 0 0 0xB8 .dword "TSEG Memory Base" [
    ("LOCK", ⟨0, 1, "Lock"⟩),
    ("TSEGMB", ⟨20, 12, "TSEG Memory Base"⟩)],
  .pci "BC" 0 31 0 0xDC .byte "BIOS Control" [
    ("BIOSWE", ⟨0, 1, "BIOS Write Enable"⟩),
    ("BLE", ⟨1, 1, "BIOS Lock Enable"⟩),
    ("SRC", ⟨2, 2, "SPI Read Configuration"⟩),
    ("TSS", ⟨4, 1, "Top Swap Status"⟩),
    ("SMM_BWP", ⟨5, 1, "SMM BIOS Write Protection"⟩)],
  .pci "GEN_PMCON_1" 0 31 0 0xA0 .word "General PM Configuration 1" [
    ("SMI_LOCK", ⟨4, 1, "SMI Lock"⟩)],
  .port "APMC" 0xB2 .byte "Advanced Power Management Control",
  .msr "IA32_FEATURE_CONTROL" 0x3A "Processor Feature Control" [
    ("LOCK", ⟨0, 1, "Lock"⟩),
    ("EN_VMX_INSIDE_SMX", ⟨1, 1, "Enable VMX inside SMX operation"⟩),
    ("EN_VMX_OUTSIDE_SMX", ⟨2, 1, "Enable VMX outside SMX operation"⟩),
    ("SENTER_FUNCTIONS", ⟨8, 7, "SENTER Local Function Enables"⟩),
    ("SENTER_GLOBAL_EN", ⟨15, 1, "SENTER Global Enable"⟩)],
  .msr "IA32_SMRR_PHYSBASE" 0x1F2 "SMRR Base Address" [
    ("Type", ⟨0, 8, "SMRR memory type"⟩),
    ("PhysBase", ⟨12, 20, "SMRR physical base address"⟩)],
  .msr "IA32_SMRR_PHYSMASK" 0x1F3 "SMRR Range Mask" [
    ("Valid", ⟨11, 1, "SMRR valid"⟩),
    ("PhysMask", ⟨12, 20, "SMRR address range mask"⟩)],
  .msr "IA32_SPEC_CTRL" 0x48 "Speculation Control" [
    ("IBRS", ⟨0, 1, "Indirect Branch Restricted Speculation"⟩),
    ("STIBP", ⟨1, 1, "Single Thread Indirect Branch Predictors"⟩),
    ("SSBD", ⟨2, 1, "Speculative Store Bypass Disable"⟩)]]

end Lockdown
