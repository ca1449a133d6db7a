import Lockdown.Bytes
import Lockdown.Width
/-!
How a transfer of many bytes is cut into transactions: greedily, the widest first, with no byte
past the end.
-/
namespace Lockdown

structure Chunk where
  offset : Nat
  width : AccessWidth
  deriving DecidableEq, Repr

/-- From `offset`, the widest chunk that still fits in what remains, and so on. -/
@[semireducible] def chunksFrom : List AccessWidth → Nat → Nat → List Chunk
  | [], _, _ => []
  | w :: ws, offset, remaining =>
    if w.bytes ≤ remaining then
      ⟨offset, w⟩ :: chunksFrom (w :: ws) (offset + w.bytes) (remaining - w.bytes)
    else chunksFrom ws offset remaining
termination_by ws _ remaining => ws.length + remaining
decreasing_by
  · have hpos := w.bytes_pos
    simp_wf
    omega
  · simp_wf

section

variable {w : AccessWidth} {ws : List AccessWidth} {offset remaining : Nat}

theorem chunksFrom_cons_of_le (h : w.bytes ≤ remaining) : chunksFrom (w :: ws) offset remaining =
    ⟨offset, w⟩ :: chunksFrom (w :: ws) (offset + w.bytes) (remaining - w.bytes) := by
  rw [chunksFrom, if_pos h]

theorem chunksFrom_cons_of_lt (h : remaining < w.bytes) :
    chunksFrom (w :: ws) offset remaining = chunksFrom ws offset remaining := by
  rw [chunksFrom, if_neg (Nat.not_le.2 h)]

end

def chunkPlanUpTo (widest : AccessWidth) (length : Nat) : List Chunk :=
  chunksFrom (AccessWidth.descending.filter fun w => w.bytes ≤ widest.bytes) 0 length

def chunkPlan (length : Nat) : List Chunk := chunkPlanUpTo .qword length

def pack (value : UInt64) (width : AccessWidth) (into : List UInt8) : List UInt8 :=
  bytesLE width.bytes value ++ into.drop width.bytes

def unpack (data : List UInt8) (width : AccessWidth) : UInt64 := ofBytesLE (data.take width.bytes)

end Lockdown
