import Lockdown.Bus.Thread
import Lockdown.Bytes
import Lockdown.Text.Blank
import Lockdown.Text.Utf8
/-! Who made the processor and which one it is, from its identification leaves. -/
namespace Lockdown

open Text

structure CpuSignature where
  family : UInt32
  model : UInt32
  stepping : UInt32
  deriving DecidableEq, Repr

/-- Family 15 is extended by a further byte; families 6 and 15 have four more bits of model. -/
def CpuSignature.ofLeaf1 (eax : UInt32) : CpuSignature :=
  let family := (eax >>> 8) &&& 0xF
  let model := (eax >>> 4) &&& 0xF
  { family := if family = 0xF then family + ((eax >>> 20) &&& 0xFF) else family
    model := if family = 6 ∨ family = 0xF then (((eax >>> 16) &&& 0xF) <<< 4) ||| model else model
    stepping := eax &&& 0xF }

/-- Leaf 0 spells the name in the order EBX, EDX, ECX. -/
def vendorString (ebx ecx edx : UInt32) : String :=
  lenient ([ebx, edx, ecx].flatMap fun r => bytesLE 4 r.toUInt64)

def vendorName (r : CpuidRegisters) : String :=
  String.ofList (trimmed (· = '\x00') (vendorString r.ebx r.ecx r.edx).toList)

namespace Bus

variable {σ : Type} [Bus σ]

def cpuSignature : Access σ CpuSignature := do
  let vendor ← cpuid 0 0
  let sig := CpuSignature.ofLeaf1 (← cpuid 1 0).eax
  Journal.info .chipset (s!"CPU: {vendorName vendor} Family {hex sig.family.toNat}, " ++
    s!"Model {hex sig.model.toNat}, Stepping {hex sig.stepping.toNat}")
  return sig

end Bus

end Lockdown
