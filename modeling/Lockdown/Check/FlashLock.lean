import Lockdown.Check.Basic
/-! The flash controller's protected ranges and access permissions are frozen until reset. -/
namespace Lockdown.Check

open Text

def flashLockName : String := "spi_lock"

def flashLock {σ : Type} [Bus σ] : Check σ where
  name := flashLockName
  description := "SPI Flash Controller Configuration Locks"
  supported := defined "HSFS" ["FLOCKDN"]
  run e := do
    let base ← e.baseAddress "HSFS"
    Journal.info (.check flashLockName) s!"SPI BAR = 0x{hex base.toNat}"
    let hsfs ← inspect e "HSFS"
    if (← hsfs "FLOCKDN") = 1 then
      report flashLockName .info "SPI Flash Controller configuration is locked" .passed
    else report flashLockName .warn "SPI Flash Controller configuration is not locked" .failed

end Lockdown.Check
