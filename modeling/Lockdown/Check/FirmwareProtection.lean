import Lockdown.Check.Basic
/-!
The firmware region is protected from writes outside system management mode when both the lock
enable and the write protection are set. With the lock alone any handler that enables writes
opens the region again.
-/
namespace Lockdown.Check

def firmwareProtectionName : String := "bios_wp"

def firmwareProtection {σ : Type} [Bus σ] : Check σ where
  name := firmwareProtectionName
  description := "BIOS Region Write Protection"
  supported := defined "BC" ["BIOSWE", "BLE", "SMM_BWP"]
  run e := do
    let bc ← inspect e "BC"
    let writable ← bc "BIOSWE"
    let locked ← bc "BLE"
    let protected_ ← bc "SMM_BWP"
    if locked = 1 ∧ protected_ = 1 then
      return ← report firmwareProtectionName .info
        "BIOS region write protection is enabled (writes restricted to SMM)" .passed
    let part := Part.check firmwareProtectionName
    if writable = 1 ∧ locked = 0 then
      Journal.warn part "BIOS region is writable: BIOSWE is set and BLE is clear"
    else if locked = 0 then
      Journal.warn part "BIOS Lock Enable (BLE) is not set"
    if protected_ = 0 then
      Journal.warn part "SMM BIOS region write protection (SMM_BWP) is not enabled"
    return .failed

end Lockdown.Check
