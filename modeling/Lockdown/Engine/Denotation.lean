import Lockdown.Engine
import Lockdown.Simulator
/-!
The value of a register on a simulated platform, as a function of the platform alone: no latch is
programmed, nothing is logged and nothing changes. It says what reading through the engine means.
-/
namespace Lockdown

namespace Simulator

/-- The dword that a place in config space selects. -/
def dwordAt (s : Simulator) (l : PciLocation) : UInt32 := s.config l.dword

def configAt (s : Simulator) (l : PciLocation) (width : AccessWidth) : UInt64 :=
  match width with
  | .qword =>
    joinAddress (narrow (s.dwordAt l.next) l.next.offset 4) (narrow (s.dwordAt l) l.offset 4)
  | _ => (narrow (s.dwordAt l) l.offset (UInt32.ofNat width.bytes)).toUInt64

/-- Little-endian, refused when it runs past the top. -/
def memoryAt (s : Simulator) (address : UInt64) (width : AccessWidth) :
    Except AccessError UInt64 :=
  if inAddressSpace address width.bytes then .ok (s.peek address width)
  else .error (.addressOverflow address width.bytes)

def msrAt (s : Simulator) (thread address : UInt32) (width : AccessWidth) : UInt64 :=
  s.msr (Bus.servingThread s thread) address &&& width.mask

def portsAt (s : Simulator) (port : UInt16) (width : AccessWidth) : Except AccessError UInt64 :=
  match width with
  | .qword => .error (.invalidSize .port 8)
  | _ => .ok (ofBytesLE (s.portBytes port width.bytes))

end Simulator

namespace Engine

/-- The address that a base names, where `value` gives the values of registers. -/
def baseOn (e : Engine) (base : BaseAddress)
    (value : ∀ d ∈ base.dependencies, Except AccessError UInt64) :
    Except AccessError UInt64 := do
  let raw ← value base.register base.register_mem
  let low ← match base.field with
    | some field => e.store.getField base.register raw field true
    | none => .ok raw
  match h : base.upper with
  | some upper =>
    let high ← value upper (BaseAddress.upper_mem h)
    return joinAddress high.toUInt32 low.toUInt32
  | none => return low

def placeOn (e : Engine) (s : Simulator) (thread : UInt32) (width : AccessWidth) :
    (l : Location) → (∀ d ∈ l.baseDependencies, Except AccessError UInt64) →
      Except AccessError UInt64
  | .pci l, _ => .ok (s.configAt l width)
  | .mmio base offset, value => do s.memoryAt ((← e.baseOn base value) + offset) width
  | .memory address, _ => s.memoryAt address width
  | .msr address, _ => .ok (s.msrAt thread address width)
  | .port p, _ => s.portsAt p width
  | .csr address, _ => .ok (s.configAt (csrLocation address) .dword)

/-- The value of a register on a thread. -/
def valueOn (e : Engine) (s : Simulator) (thread : UInt32) (name : String) :
    Except AccessError UInt64 :=
  match _h : e.store.get? name with
  | none => .error (.undefinedRegister name)
  | some r => e.placeOn s thread r.width r.location fun d _hd => e.valueOn s e.thread d
termination_by e.store.depth name
decreasing_by exact e.store.depth_lt _h _hd

def value (e : Engine) (s : Simulator) (name : String) : Except AccessError UInt64 :=
  e.valueOn s e.thread name

end Engine

end Lockdown
