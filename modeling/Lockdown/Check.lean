import Lockdown.Check.FeatureLock
import Lockdown.Check.FirmwareProtection
import Lockdown.Check.FlashLock
import Lockdown.Check.GraphicsWake
import Lockdown.Check.InterruptLock
import Lockdown.Check.ResetLock
/-! All checks, in the order of a scan. -/
namespace Lockdown.Check

def all {σ : Type} [Bus σ] (policy : PollPolicy) : List (Check σ) :=
  [resetLock, firmwareProtection, flashLock, interruptLock, featureLock, graphicsWake policy]

end Lockdown.Check
