import Lockdown.Store
/-! What is known about one chipset generation: how to recognise it and which registers it has. -/
namespace Lockdown

structure Chipset where
  /-- Short name for the command line. -/
  code : String
  name : String
  /-- Device numbers of the host bridge at 0:0.0. -/
  hostBridges : List UInt16
  registers : List Register

def Chipset.matches (c : Chipset) (device : UInt16) : Bool := c.hostBridges.contains device

end Lockdown
