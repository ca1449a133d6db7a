/-!
Named runs of bits inside a 64-bit register value. A shift by the register's width or more
leaves nothing, so a field that lies past bit 63 reads as zero and writes nothing.
-/
namespace Lockdown

/-- The field covers `size` bits upward from `bit`. -/
structure Field where
  bit : UInt32
  size : UInt32
  desc : String
  deriving DecidableEq, Repr, Inhabited

/-- Move bits up; nothing is left at 64 or more. -/
def shiftUp (v : UInt64) (n : UInt32) : UInt64 :=
  if n < 64 then v <<< n.toUInt64 else 0

def shiftDown (v : UInt64) (n : UInt32) : UInt64 :=
  if n < 64 then v >>> n.toUInt64 else 0

namespace Field

/-- One past the highest bit covered, where the sum does not wrap round at 2 ^ 32. -/
def stop (f : Field) : UInt32 := f.bit + f.size

def valueMask (f : Field) : UInt64 :=
  if f.size < 64 then (1 <<< f.size.toUInt64) - 1 else 0xFFFFFFFFFFFFFFFF

def registerMask (f : Field) : UInt64 := shiftUp f.valueMask f.bit

def extract (f : Field) (v : UInt64) : UInt64 := shiftDown v f.bit &&& f.valueMask

/-- The field's bits left where they are, for addresses whose low bits are implied zeros. -/
def extractInPlace (f : Field) (v : UInt64) : UInt64 := v &&& f.registerMask

def insert (f : Field) (v new : UInt64) : UInt64 :=
  (v &&& ~~~f.registerMask) ||| (shiftUp new f.bit &&& f.registerMask)

def overlaps (f g : Field) : Bool := f.bit < g.stop && g.bit < f.stop

end Field

/-- A 64-bit address from its halves. -/
def joinAddress (high low : UInt32) : UInt64 := (high.toUInt64 <<< 32) ||| low.toUInt64

end Lockdown
