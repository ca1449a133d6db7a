import Lockdown.Files
import Lockdown.Bytes
import Lockdown.Width
import Lockdown.Pci
/-!
Device nodes, files whose offsets are addresses. Offsets from 2^63 up cannot be sought; a read
must be filled whole and otherwise fails without an effect.
-/
namespace Lockdown

open Text

structure DeviceNode where
  path : String
  file : Nat
  deriving DecidableEq, Repr

/-- Offsets are signed 64-bit numbers. -/
def offsetLimit : Nat := 0x8000000000000000

namespace Filesystem

def openNode (fs : Filesystem) (path : String) : Except DeviceError DeviceNode :=
  match fs.openFile path with
  | .ok file => .ok ⟨path, file⟩
  | .error e => .error (.openFailed path e)

def readAt (fs : Filesystem) (n : DeviceNode) (offset : UInt64) (length : Nat) :
    Except DeviceError (List UInt8) :=
  let c := fs.content n.file
  if offsetLimit ≤ offset.toNat then .error (.seekFailed n.path offset .invalidArgument)
  else if length = 0 then .ok []
  else if offsetLimit ≤ offset.toNat + length then
    .error (.readFailed n.path offset length .invalidArgument)
  else if c.size < offset.toNat + length then
    .error (.readFailed n.path offset length .unexpectedEnd)
  else .ok (c.slice offset.toNat length)

def writeAt (fs : Filesystem) (n : DeviceNode) (offset : UInt64) (data : List UInt8) :
    Except DeviceError Filesystem :=
  if offsetLimit ≤ offset.toNat then .error (.seekFailed n.path offset .invalidArgument)
  else if data.isEmpty then .ok fs
  else if offsetLimit ≤ offset.toNat + data.length then
    .error (.writeFailed n.path offset data.length .invalidArgument)
  else .ok (fs.setContent n.file ((fs.content n.file).write offset.toNat data))

def readUInt (fs : Filesystem) (n : DeviceNode) (offset : UInt64) (width : AccessWidth) :
    Except DeviceError UInt64 :=
  (fs.readAt n offset width.bytes).map ofBytesLE

def writeUInt (fs : Filesystem) (n : DeviceNode) (offset : UInt64) (width : AccessWidth)
    (value : UInt64) : Except DeviceError Filesystem :=
  fs.writeAt n offset (bytesLE width.bytes value)

end Filesystem

def msrPath (root : String) (cpu : UInt32) : String := joinPath root s!"dev/cpu/{cpu}/msr"

/-- Bus, device and function are truncated to what the hardware can address. -/
def pciPath (root : String) (l : PciLocation) : String :=
  let d := l.dword
  joinPath root (s!"proc/bus/pci/{hexLower 2 d.bus.toNat}/" ++
    s!"{hexLower 2 d.device.toNat}.{d.function}")

def memPath (root : String) : String := joinPath root "dev/mem"

def portPath (root : String) : String := joinPath root "dev/port"

end Lockdown
