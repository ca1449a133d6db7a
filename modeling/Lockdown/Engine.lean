import Lockdown.Bus.Config
import Lockdown.Bus.Memory
import Lockdown.Bus.Port
import Lockdown.Bus.Thread
import Lockdown.Poll
import Lockdown.Store.Decode
import Lockdown.Text.Lines
/-!
Registers by name. A name stands for a place, and a place in a memory block for the registers
that hold the block's base, which are read anew at every access. Accepted stores have no cycle of
bases, so the chain of reads ends without a bound on its length.
-/
namespace Lockdown

open Text

structure Engine where
  store : Store
  /-- The thread whose model-specific registers are meant. -/
  thread : UInt32

namespace Engine

variable {σ : Type} [Bus σ]

/-- Eight bytes are two dwords, the low one first. -/
def readConfig (l : PciLocation) (width : AccessWidth) : Access σ UInt64 := do
  match width with
  | .qword =>
    let low ← Bus.readPci l 4
    let high ← Bus.readPci l.next 4
    return joinAddress high low
  | _ => return (← Bus.readPci l (UInt32.ofNat width.bytes)).toUInt64

def writeConfig (l : PciLocation) (width : AccessWidth) (value : UInt64) : Access σ UInt64 := do
  match width with
  | .qword =>
    let low ← Bus.writePci l value.toUInt32 4
    let high ← Bus.writePci l.next (value >>> 32).toUInt32 4
    return joinAddress high low
  | _ => return (← Bus.writePci l value.toUInt32 (UInt32.ofNat width.bytes)).toUInt64

/-- The address that a base names, where `fetch` reads a register it depends on. -/
def baseValue (e : Engine) (base : BaseAddress)
    (fetch : ∀ d ∈ base.dependencies, Access σ UInt64) : Access σ UInt64 := do
  let raw ← fetch base.register base.register_mem
  let low ← match base.field with
    | some field => Access.ofExcept (e.store.getField base.register raw field true)
    | none => pure raw
  match h : base.upper with
  | some upper =>
    let high ← fetch upper (BaseAddress.upper_mem h)
    return joinAddress high.toUInt32 low.toUInt32
  | none => return low

def readMemory (address : UInt64) (width : AccessWidth) : Access σ UInt64 :=
  Bus.readMmio address (UInt64.ofNat width.bytes)

def writeMemory (address : UInt64) (width : AccessWidth) (value : UInt64) : Access σ Unit :=
  Bus.writeMmio address (UInt64.ofNat width.bytes) value

/-- Read the place of a register. Uncore registers are read as dwords, whatever their width. -/
def readPlace (e : Engine) (thread : UInt32) (width : AccessWidth) :
    (l : Location) → (∀ d ∈ l.baseDependencies, Access σ UInt64) → Access σ UInt64
  | .pci l, _ => readConfig l width
  | .mmio base offset, fetch => do readMemory ((← e.baseValue base fetch) + offset) width
  | .memory address, _ => readMemory address width
  | .msr address, _ => do
    let (low, high) ← Bus.readMsr thread address
    return joinAddress high low &&& width.mask
  | .port p, _ => return (← Bus.readPort p (UInt32.ofNat width.bytes)).toUInt64
  | .csr address, _ => return (← Bus.readPci (csrLocation address) 4).toUInt64

def describe (r : Register) : String := s!"{r.name} ({r.location.text})"

/-- Read a register on a thread; its bases are read on the engine's own. -/
def readOn (e : Engine) (thread : UInt32) (name : String) : Access σ UInt64 :=
  match _h : e.store.get? name with
  | none => throw (.undefinedRegister name)
  | some r => do
    let value ← e.readPlace thread r.width r.location fun d _hd => e.readOn e.thread d
    Journal.debug .engine s!"{describe r} = 0x{hex value.toNat}"
    return value
termination_by e.store.depth name
decreasing_by exact e.store.depth_lt _h _hd

def read (e : Engine) (name : String) : Access σ UInt64 := e.readOn e.thread name

def resolveBase (e : Engine) (base : BaseAddress) : Access σ UInt64 :=
  e.baseValue base fun d _ => e.read d

/-- Write a register. What is written in config space is read before, and returned. -/
def write (e : Engine) (name : String) (value : UInt64) : Access σ (Option UInt64) := do
  let r ← Access.ofExcept (e.store.require name)
  Journal.debug .engine s!"{describe r} <- 0x{hex value.toNat}"
  match r.location with
  | .pci l => return some (← writeConfig l r.width value)
  | .mmio base offset =>
    writeMemory ((← e.resolveBase base) + offset) r.width value
    return none
  | .memory address =>
    writeMemory address r.width value
    return none
  | .msr address =>
    Bus.writeMsr e.thread address value.toUInt32 (value >>> 32).toUInt32
    return none
  | .port p =>
    Bus.writePort p value.toUInt32 (UInt32.ofNat r.width.bytes)
    return none
  | .csr address => return some (← Bus.writePci (csrLocation address) value.toUInt32 4).toUInt64

def baseAddress (e : Engine) (name : String) : Access σ UInt64 := do
  match (← Access.ofExcept (e.store.require name)).location with
  | .mmio base _ => e.resolveBase base
  | _ => throw (.noBaseAddress name)

/-- Nothing is read when the field is not defined. -/
def readField (e : Engine) (name field : String) (inPlace : Bool) : Access σ UInt64 := do
  let _ ← Access.ofExcept (e.store.requireField name field)
  let value ← e.read name
  Access.ofExcept (e.store.getField name value field inPlace)

/-- A read and a write, with nothing to keep others away in between. -/
def writeField (e : Engine) (name field : String) (new : UInt64) : Access σ (Option UInt64) := do
  let _ ← Access.ofExcept (e.store.requireField name field)
  let value ← e.read name
  e.write name (← Access.ofExcept (e.store.setField name value field new))

def pollField (e : Engine) (name field : String) (policy : PollPolicy) (ready : UInt64 → Bool) :
    Access σ PollOutcome := do
  let _ ← Access.ofExcept (e.store.requireField name field)
  pollUntil policy (e.readField name field false) ready

/-- A model-specific register on every thread in turn, where a disabled thread shows what its
substitute holds; any other register once. -/
def readAllThreads (e : Engine) (name : String) : Access σ (List UInt64) := do
  match (← Access.ofExcept (e.store.require name)).location with
  | .msr _ => (← Access.observe Bus.threads).mapM fun thread => e.readOn thread name
  | _ => return [← e.read name]

def fieldLine (value : UInt64) (name : String) (f : Field) : String :=
  s!"    [{decimalPadded 2 f.bit.toNat}] {leftIn 16 name}" ++
    s!" = {hex (f.extract value).toNat} << {f.desc}"

def render (r : Register) (value : UInt64) : String :=
  let head :=
    s!"[*] {r.name} = 0x{hexPadded (2 * r.width.bytes) value.toNat} << {r.desc} ({r.location.text})"
  "\n".intercalate (head :: r.fieldsByBit.map fun (name, f) => fieldLine value name f)

def print (e : Engine) (name : String) (value : UInt64) : Access σ String := do
  let text := render (← Access.ofExcept (e.store.require name)) value
  (lines text).forM fun line => (Journal.info .engine line : Access σ Unit)
  return text

end Engine

end Lockdown
