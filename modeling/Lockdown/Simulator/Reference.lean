import Lockdown.Simulator
/-!
A locked-down Coffee Lake desktop with four threads: every lock that a check looks at is set, the
wake handshake is wired, and the flash and graphics bases point at populated memory.
-/
namespace Lockdown.Simulator

def flashBase : UInt64 := 0xFE010000
def graphicsBase : UInt64 := 0xDE000000

def referenceDwords : List (PciLocation × UInt32) := [
  (⟨0, 0, 0, 0x00⟩, 0x3E1F8086),
  (⟨0, 0, 0, 0x48⟩, 0xFED10001),
  (⟨0, 0, 0, 0x4C⟩, 0x00000000),
  (⟨0, 0, 0, 0xB8⟩, 0x8B800001),
  (⟨0, 2, 0, 0x00⟩, 0x3E928086),
  (⟨0, 2, 0, 0x10⟩, 0xDE000004),
  (⟨0, 2, 0, 0x14⟩, 0x00000000),
  (⟨0, 31, 2, 0x00⟩, 0xA3218086),
  (⟨0, 31, 2, 0xAC⟩, 0x80000000),
  (⟨0, 31, 2, 0xA0⟩, 0x00000010),
  (⟨0, 31, 5, 0x00⟩, 0xA3248086),
  (⟨0, 31, 5, 0x10⟩, 0xFE010000),
  (⟨0, 31, 5, 0xDC⟩, 0x000000A2)]

def referenceMemory : List (UInt64 × List UInt8) := [
  (flashBase + 0x04, bytesLE 4 0x0000C000),
  (graphicsBase + 0xA188, bytesLE 4 0),
  (graphicsBase + 0x0D0084, bytesLE 4 0)]

def referenceMsrs : List (UInt32 × UInt64) := [(0x3A, 0x5), (0x151, 0x3)]

def reference : Simulator :=
  let s := referenceDwords.foldl (fun s (l, v) => s.populate l v) (ofThreads 4)
  let s := referenceMemory.foldl (fun s (a, bytes) => s.load a bytes) s
  let s := s.addAck (graphicsBase + 0xA188) (graphicsBase + 0x0D0084)
  { s with threads := s.threads.map fun t => referenceMsrs.foldl (fun t (a, v) => t.setMsr a v) t }

end Lockdown.Simulator
