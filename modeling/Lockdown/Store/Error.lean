import Lockdown.Text.Radix
/-! Why a set of register definitions is refused. -/
namespace Lockdown

inductive DefinitionError where
  | duplicateRegister (chipset name : String)
  | fieldOutOfRange (register field : String) (bit size : UInt32) (widthBits : Nat)
  | overlappingFields (register first second : String)
  | unknownBaseRegister (register base : String)
  | unknownBaseField (register base field : String)
  | cyclicBaseRegister (chain : List String)
  deriving DecidableEq, Repr

def DefinitionError.message : DefinitionError → String
  | duplicateRegister chipset name =>
    s!"Register {name} defined twice in the same layer of profile {chipset}"
  | fieldOutOfRange register field bit size widthBits =>
    s!"Field {register}.{field} (bit {bit}, size {size}) does not fit a {widthBits}-bit register"
  | overlappingFields register first second =>
    s!"Fields {register}.{first} and {register}.{second} overlap"
  | unknownBaseRegister register base => s!"Register {register} uses undefined base register {base}"
  | unknownBaseField register base field =>
    s!"Register {register} uses undefined base field {base}.{field}"
  | cyclicBaseRegister chain => "Cyclic base register chain: " ++ " -> ".intercalate chain

end Lockdown
