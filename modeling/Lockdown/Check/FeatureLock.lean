import Lockdown.Check.Basic
/-!
The processor's feature enables are locked on every thread. The slot of a thread that is offline
shows another thread's value and is not judged.
-/
namespace Lockdown.Check

def featureLockName : String := "ia32_feature_control"

def featureControl : String := "IA32_FEATURE_CONTROL"

variable {σ : Type} [Bus σ]

/-- The lock bit of each thread that is online, from the values of threads from `thread` up. -/
def lockBits (e : Engine) : UInt32 → List UInt64 → Access σ (List (UInt32 × UInt64))
  | _, [] => return []
  | thread, value :: values => do
    if ← Access.observe fun s => Bus.threadEnabled s thread then
      let lock ← Access.ofExcept (e.store.getField featureControl value "LOCK" false)
      Journal.info (.check featureLockName) s!"cpu{thread}: {featureControl} Lock = {lock}"
      return (thread, lock) :: (← lockBits e (thread + 1) values)
    else
      Journal.info (.check featureLockName) s!"cpu{thread}: offline, skipped"
      lockBits e (thread + 1) values

def judge (locks : List (UInt32 × UInt64)) : Level × String × Verdict :=
  if locks.isEmpty then
    (.warn, s!"No online logical CPU to check {featureControl} on", .warning)
  else
    let unlocked := (locks.filter fun (_, lock) => lock = 0).map fun (thread, _) => toString thread
    if unlocked.isEmpty then (.info, s!"{featureControl} is locked on all logical CPUs", .passed)
    else
      let threads := ", ".intercalate unlocked
      (.warn, s!"{featureControl} is not locked on threads [{threads}]", .failed)

def featureLock : Check σ where
  name := featureLockName
  description := "IA32 Feature Control Lock"
  supported := defined featureControl ["LOCK"]
  run e := do
    let locks ← lockBits e 0 (← e.readAllThreads featureControl)
    let (level, text, verdict) := judge locks
    report featureLockName level text verdict

end Lockdown.Check
