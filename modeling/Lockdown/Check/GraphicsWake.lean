import Lockdown.Check.Basic
/-!
The graphics wake handshake. Graphics registers are decoded only while the power well is awake,
so the check requests a wake, waits a bounded time for the acknowledge, and releases the request.
-/
namespace Lockdown.Check

open Text

def graphicsWakeName : String := "igd_force_wake"

def wakeChipsets : List String := ["cfl"]

def wakeBits : List UInt64 :=
  [0x8000, 0x4000, 0x2000, 0x1000, 0x800, 0x400, 0x200, 0x100, 0x80, 0x40, 0x20, 0x10, 0x8, 0x4,
    0x2, 0x1]

/-- The first request bit that is not acknowledged already. -/
def freeWakeBit? (state : UInt64) : Option UInt64 := wakeBits.find? fun bit => state &&& bit = 0

variable {σ : Type} [Bus σ]

def requestWake (e : Engine) (mask request : UInt64) : Access σ Unit := do
  let value ← Access.ofExcept (e.store.setField "GT_FORCE_WAKE" 0 "WAKE_MASK" mask)
  let value ← Access.ofExcept (e.store.setField "GT_FORCE_WAKE" value "WAKE_REQUEST" request)
  let _ ← e.write "GT_FORCE_WAKE" value

/-- A function that answers all ones, or cannot be asked, is not there. -/
def graphicsPresent : Act σ Bool := do
  match ← (Bus.readPci ⟨0, 2, 0, 0⟩ 2 : Access σ UInt32).attempt with
  | .ok vendor => return vendor != 0xFFFF
  | .error _ => return false

def wakeSupported (e : Engine) : Act σ Bool := do
  if !wakeChipsets.contains e.store.chipset then return false
  if !(e.store.hasFields "GT_FORCE_WAKE" ["WAKE_REQUEST", "WAKE_MASK"] &&
      e.store.hasFields "GTSP1" ["WAKE_REQUEST"]) then
    Journal.warn (.check graphicsWakeName)
      "Missing register definitions to enable Force Wake support"
    return false
  if !(← graphicsPresent) then
    Journal.info (.check graphicsWakeName) "IGD is disabled"
    return false
  return true

def wakeHandshake (policy : PollPolicy) (e : Engine) : Access σ Verdict := do
  let state ← e.readField "GTSP1" "WAKE_REQUEST" false
  Journal.info (.check graphicsWakeName) s!"Force Wake initial state: 0x{hexPadded 8 state.toNat}"
  match freeWakeBit? state with
  | none => report graphicsWakeName .warn "No free force wake request bit" .warning
  | some bit =>
    requestWake e bit bit
    match ← e.pollField "GTSP1" "WAKE_REQUEST" policy fun v => v &&& bit = bit with
    | .ready state =>
      Journal.info (.check graphicsWakeName) s!"Force Wake new state: 0x{hexPadded 8 state.toNat}"
      requestWake e bit 0
      report graphicsWakeName .info "GT Force Wake complete" .passed
    | .notReady last attempts =>
      report graphicsWakeName .warn
        s!"GT Force Wake failed after {attempts} attempts, state 0x{hexPadded 8 last.toNat}"
        .warning

def graphicsWake (policy : PollPolicy) : Check σ where
  name := graphicsWakeName
  description := "GT Force Wake"
  supported := wakeSupported
  run := wakeHandshake policy

end Lockdown.Check
