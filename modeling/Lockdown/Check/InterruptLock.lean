import Lockdown.Check.Basic
/-! System management interrupts can no longer be switched off. -/
namespace Lockdown.Check

def interruptLockName : String := "smi_lock"

def interruptLock {σ : Type} [Bus σ] : Check σ where
  name := interruptLockName
  description := "SMI Events Configuration Lock"
  supported := defined "GEN_PMCON_1" ["SMI_LOCK"]
  run e := do
    let pmcon ← inspect e "GEN_PMCON_1"
    if (← pmcon "SMI_LOCK") = 1 then
      report interruptLockName .info "SMI events global configuration is locked" .passed
    else report interruptLockName .warn "SMI events global configuration is not locked" .failed

end Lockdown.Check
