import Lockdown.Bus.Basic
import Lockdown.Field
/-!
Requests to one logical thread. A request to a disabled thread goes to the first enabled one, or
to thread 0 when all are disabled, and says so once.
-/
namespace Lockdown

open Text

def controlRegisters : List UInt32 := [0, 2, 3, 4, 8]

variable {σ : Type}

def checkControlRegister (cr : UInt32) : Access σ Unit :=
  if cr ∈ controlRegisters then pure ()
  else do
    Journal.error .backend s!"Selected CR{cr} is not supported"
    throw (.unsupportedControlRegister cr)

namespace Bus

variable [Bus σ]

def threads (s : σ) : List UInt32 := (List.range (threadCount s).toNat).map UInt32.ofNat

/-- The first enabled thread from `thread` up, among so many. -/
def enabledFrom? (s : σ) (thread : UInt32) : Nat → Option UInt32
  | 0 => none
  | n + 1 => if threadEnabled s thread then some thread else enabledFrom? s (thread + 1) n

def firstEnabled? (s : σ) : Option UInt32 := enabledFrom? s 0 (threadCount s).toNat

def servingThread (s : σ) (requested : UInt32) : UInt32 :=
  if threadEnabled s requested then requested else (firstEnabled? s).getD 0

def findEnabled : Act σ UInt32 := do
  match ← Act.observe firstEnabled? with
  | some t => return t
  | none =>
    Journal.warn .backend "No enabled threads found"
    return 0

def selectThread (requested : UInt32) : Act σ UInt32 := do
  let s ← Act.observe id
  if !threadEnabled s requested then
    match firstEnabled? s with
    | some t => Journal.warn .backend s!"Selected thread [{requested}] was disabled, using [{t}]"
    | none =>
      Journal.warn .backend
        s!"Selected thread [{requested}] was disabled and no enabled threads found, using [0]"
  return servingThread s requested

def msrText (thread address : UInt32) : String :=
  s!"thread {thread} MSR 0x{hexPadded 8 address.toNat}"

/-- The two halves of the value, the low one first. -/
def readMsr (requested address : UInt32) : Access σ (UInt32 × UInt32) := do
  let thread ← (selectThread requested : Act σ UInt32)
  let value ← msrRead thread address
  Journal.debug .backend s!"MSR read: {msrText thread address} = 0x{hexPadded 16 value.toNat}"
  return (value.toUInt32, (value >>> 32).toUInt32)

def writeMsr (requested address eax edx : UInt32) : Access σ Unit := do
  let thread ← (selectThread requested : Act σ UInt32)
  let value := joinAddress edx eax
  Journal.debug .backend s!"MSR write: {msrText thread address} <- 0x{hexPadded 16 value.toNat}"
  msrWrite thread address value

def readCr (requested cr : UInt32) : Access σ UInt64 := do
  checkControlRegister cr
  crRead (← (selectThread requested : Act σ UInt32)) cr

def writeCr (requested cr : UInt32) (value : UInt64) : Access σ Unit := do
  checkControlRegister cr
  crWrite (← (selectThread requested : Act σ UInt32)) cr value

def cpuid (leaf subleaf : UInt32) : Access σ CpuidRegisters := do
  cpuidOn (← (findEnabled : Act σ UInt32)) leaf subleaf

end Bus

end Lockdown
