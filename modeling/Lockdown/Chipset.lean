import Lockdown.Chipset.Shared
import Lockdown.Chipset.Avoton
import Lockdown.Chipset.CoffeeLake
/-! The supported chipsets, how one is picked, and the store it stands for. -/
namespace Lockdown

def intelVendor : UInt16 := 0x8086

namespace Chipset

def all : List Chipset := [avoton, coffeeLake]

def ofCode? (code : String) : Option Chipset := all.find? fun c => c.code.toLower = code.toLower

def ofDevice? (vendor device : UInt16) : Option Chipset :=
  if vendor = intelVendor then all.find? fun c => c.matches device else none

/-- Shared registers, then the chipset's own, then the site's. -/
def store (c : Chipset) (overlay : List Register) : Except DefinitionError Store :=
  Store.build c.code [sharedRegisters, c.registers, overlay]

end Chipset

end Lockdown
