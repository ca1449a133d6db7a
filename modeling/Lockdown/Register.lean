import Lockdown.Width
import Lockdown.Field
import Lockdown.Pci
import Lockdown.NameMap
import Lockdown.Text.Radix
/-!
Registers as data: a name, where the register lives, how wide it is and which fields it has. A
register in a memory block names the register that holds the block's base, so definitions refer
to each other; resolving them is left to the engine.
-/
namespace Lockdown

open Text

/-- The base of a memory block: a register, or one of its fields left in place, with bits 63:32
from another register where there is one. -/
structure BaseAddress where
  register : String
  field : Option String
  upper : Option String
  deriving DecidableEq, Repr, Inhabited

inductive Location where
  | pci (at_ : PciLocation)
  | mmio (base : BaseAddress) (offset : UInt64)
  | memory (address : UInt64)
  | msr (address : UInt32)
  | port (port : UInt16)
  | csr (address : UInt32)
  deriving DecidableEq, Repr, Inhabited

structure Register where
  name : String
  location : Location
  width : AccessWidth
  desc : String
  fields : NameMap Field
  deriving DecidableEq, Repr, Inhabited

namespace BaseAddress

def dependencies (b : BaseAddress) : List String := b.register :: b.upper.toList

theorem register_mem (b : BaseAddress) : b.register ∈ b.dependencies := List.mem_cons_self

theorem upper_mem {b : BaseAddress} {upper : String} (h : b.upper = some upper) :
    upper ∈ b.dependencies := by
  simp [dependencies, h]

end BaseAddress

namespace Location

def kind : Location → String
  | pci _ => "pci"
  | mmio .. => "mmio"
  | memory _ => "memory"
  | msr _ => "msr"
  | port _ => "io"
  | csr _ => "csr"

def text : Location → String
  | pci l =>
    s!"b:d.f {hexPadded 2 l.bus.toNat}:{hexPadded 2 l.device.toNat}.{hex l.function.toNat}" ++
      s!" + 0x{hex l.offset.toNat}"
  | mmio base offset =>
    match base.field with
    | some field => s!"{base.register}.{field} + 0x{hex offset.toNat}"
    | none => s!"{base.register} + 0x{hex offset.toNat}"
  | memory address => s!"mem 0x{hex address.toNat}"
  | msr address => s!"MSR 0x{hex address.toNat}"
  | port p => s!"I/O port 0x{hex p.toNat}"
  | csr address => s!"CSR 0x{hex address.toNat}"

def baseDependencies : Location → List String
  | mmio base _ => base.dependencies
  | _ => []

end Location

namespace Register

def pci (name : String) (bus device function offset : UInt32) (width : AccessWidth) (desc : String)
    (fields : List (String × Field)) : Register :=
  ⟨name, .pci ⟨bus, device, function, offset⟩, width, desc, .ofList fields⟩

def mmio (name : String) (base : BaseAddress) (offset : UInt64) (width : AccessWidth)
    (desc : String) (fields : List (String × Field)) : Register :=
  ⟨name, .mmio base offset, width, desc, .ofList fields⟩

/-- Model-specific registers are eight bytes wide. -/
def msr (name : String) (address : UInt32) (desc : String) (fields : List (String × Field)) :
    Register :=
  ⟨name, .msr address, .qword, desc, .ofList fields⟩

def port (name : String) (p : UInt16) (width : AccessWidth) (desc : String) : Register :=
  ⟨name, .port p, width, desc, ∅⟩

def field? (r : Register) (field : String) : Option Field := r.fields.get? field

def baseDependencies (r : Register) : List String := r.location.baseDependencies

def insertByBit (e : String × Field) : List (String × Field) → List (String × Field)
  | [] => [e]
  | x :: xs => if e.2.bit ≤ x.2.bit then e :: x :: xs else x :: insertByBit e xs

/-- Fields by lowest bit; fields that begin together stay in order of name. -/
def fieldsByBit (r : Register) : List (String × Field) := r.fields.toList.foldr insertByBit []

end Register

end Lockdown
