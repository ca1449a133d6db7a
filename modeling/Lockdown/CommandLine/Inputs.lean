import Lockdown.Chipset
import Lockdown.Native
import Lockdown.Settings
/-!
Which files a run may look into, and a tree that holds copies of them. Files are copied whole, so
only a root of one's own can stand for the device files; those of a running system are never read.
-/
namespace Lockdown.CommandLine

def functions (registers : List Register) : List PciLocation :=
  (registers.filterMap fun r => match r.location with
    | .pci l => some { l.dword with offset := 0 }
    | .csr address => some { (csrLocation address).dword with offset := 0 }
    | _ => none).eraseDups

def knownRegisters (overlay : List Register) : List Register :=
  sharedRegisters ++ Chipset.all.flatMap (·.registers) ++ overlay

def listFiles (root : String) : List String :=
  ["online", "possible"].map (joinPath (joinPath root "sys/devices/system/cpu"))

def threadsOf (files : Filesystem) (s : Settings) : List UInt32 :=
  (s.thread :: 0 :: (Native.cpuList? files s.root "online").getD []).eraseDups

def deviceFiles (s : Settings) (threads : List UInt32) (overlay : List Register) : List String :=
  if s.root = "/" then []
  else memPath s.root :: portPath s.root :: threads.map (msrPath s.root) ++
    (functions (knownRegisters overlay)).map (pciPath s.root)

end Lockdown.CommandLine
