import Lockdown.Bus.Basic
/-! Services that none of the environments here offers. Asking is logged and answers nothing. -/
namespace Lockdown

structure SmiRegisters where
  rax : UInt64
  rbx : UInt64
  rcx : UInt64
  rdx : UInt64
  rsi : UInt64
  rdi : UInt64
  deriving DecidableEq, Repr, Inhabited

inductive DescriptorTable where
  | gdtr
  | idtr
  | ldtr
  deriving DecidableEq, Repr

namespace Bus

variable {σ : Type}

def allocPhysical (_length : Nat) (_limit : UInt64) : Act σ (Option UInt64) :=
  Capability.allocPhysMem.lacking

def sendSmi (_thread : UInt32) (_code _data : UInt8) (_registers : SmiRegisters) :
    Act σ (Option SmiRegisters) :=
  Capability.sendSwSmi.lacking

def efiVariable (_name _guid : String) : Act σ (Option (List UInt8)) :=
  Capability.getEfiVariable.lacking

def messageBusRead (_port : UInt8) (_register : UInt32) : Act σ (Option UInt32) :=
  Capability.msgbusRead.lacking

def messageBusWrite (_port : UInt8) (_register _value : UInt32) : Act σ (Option Unit) :=
  Capability.msgbusWrite.lacking

def loadMicrocode (_thread : UInt32) (_image : List UInt8) : Act σ (Option Unit) :=
  Capability.loadUcodeUpdate.lacking

def descriptorTable (_thread : UInt32) (_table : DescriptorTable) :
    Act σ (Option (UInt16 × UInt64)) :=
  Capability.getDescriptorTable.lacking

end Bus

end Lockdown
