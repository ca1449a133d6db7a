/-!
Where a config dword lives and how the legacy latch at port 0xCF8 names it. The latch keeps
its reserved bits across cycles and truncates what does not fit, as the hardware does.
-/
namespace Lockdown

/-- A place in config space, not yet truncated to what the hardware can address. -/
structure PciLocation where
  bus : UInt32
  device : UInt32
  function : UInt32
  offset : UInt32
  deriving DecidableEq, Repr, Inhabited

namespace PciLocation

def dword (l : PciLocation) : PciLocation :=
  ⟨l.bus &&& 0xFF, l.device &&& 0x1F, l.function &&& 7, l.offset &&& 0xFC⟩

def inRange (l : PciLocation) : Bool :=
  l.bus < 256 && l.device < 32 && l.function < 8 && l.offset < 256

def next (l : PciLocation) : PciLocation := { l with offset := l.offset + 4 }

end PciLocation

/-- The contents of the configuration latch. Bit 31 enables; bus, device, function and offset
sit at 16, 11, 8 and 0; the other bits are reserved. -/
structure ConfigAddress where
  enable : Bool
  bus : UInt32
  device : UInt32
  function : UInt32
  offset : UInt32
  reserved : UInt32
  deriving DecidableEq, Repr, Inhabited

namespace ConfigAddress

def port : UInt16 := 0xCF8
def dataPort : UInt16 := 0xCFC
def reservedMask : UInt32 := 0x7F000003

/-- The latch for one cycle, with the reserved bits of the previous latch. -/
def forCycle (previous : UInt32) (l : PciLocation) : ConfigAddress where
  enable := true
  bus := l.bus
  device := l.device
  function := l.function
  offset := l.offset
  reserved := previous &&& reservedMask

def encode (a : ConfigAddress) : UInt32 :=
  (a.reserved &&& reservedMask)
    ||| (if a.enable then (0x80000000 : UInt32) else 0)
    ||| ((a.bus &&& 0xFF) <<< 16)
    ||| ((a.device &&& 0x1F) <<< 11)
    ||| ((a.function &&& 0x07) <<< 8)
    ||| (a.offset &&& 0xFF)

def decode (v : UInt32) : ConfigAddress where
  enable := v &&& 0x80000000 != 0
  bus := (v >>> 16) &&& 0xFF
  device := (v >>> 11) &&& 0x1F
  function := (v >>> 8) &&& 0x07
  offset := v &&& 0xFC
  reserved := v &&& reservedMask

def toRaw (a : ConfigAddress) : UInt64 := a.encode.toUInt64

def ofRaw (v : UInt64) : ConfigAddress := decode v.toUInt32

def dwordOffset (a : ConfigAddress) : UInt32 := a.offset &&& 0xFC

def selected? (a : ConfigAddress) : Option PciLocation :=
  if a.enable then some ⟨a.bus, a.device, a.function, a.dwordOffset⟩ else none

/-- The first field that does not fit its place in the latch. -/
inductive RangeError where
  | bus
  | device
  | function
  | offset
  deriving DecidableEq, Repr

def RangeError.message : RangeError → String
  | .bus => "bus must be 0-255"
  | .device => "device must be 0-31"
  | .function => "function must be 0-7"
  | .offset => "offset must be 0-255"

def validate (a : ConfigAddress) : Except RangeError Unit :=
  if a.bus > 0xFF then .error .bus
  else if a.device > 0x1F then .error .device
  else if a.function > 0x07 then .error .function
  else if a.offset > 0xFF then .error .offset
  else .ok ()

end ConfigAddress

/-- Uncore registers sit behind a pseudo-device on this bus. -/
def csrBus : UInt32 := 0xFF

def csrLocation (address : UInt32) : PciLocation :=
  ⟨csrBus, 0, (address &&& 0xFF00) >>> 12, address &&& 0xFF⟩

end Lockdown
