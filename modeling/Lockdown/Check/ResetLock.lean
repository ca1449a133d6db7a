import Lockdown.Check.Basic
/-! The reset control register can no longer be reprogrammed. -/
namespace Lockdown.Check

def resetLockName : String := "cf9_lock"

def resetLock {σ : Type} [Bus σ] : Check σ where
  name := resetLockName
  description := "Checking that CF9LOCK bit is set"
  supported := defined "ETR3" ["CF9LOCK"]
  run e := do
    let etr3 ← inspect e "ETR3"
    if (← etr3 "CF9LOCK") = 0 then report resetLockName .warn "CF9 Lockdown bit not set" .failed
    else report resetLockName .info "CF9 Lockdown bit is set" .passed

end Lockdown.Check
