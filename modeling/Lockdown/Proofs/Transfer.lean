import Lockdown.Proofs.Bytes

/-! The chunks of a transfer lie end to end and fill it exactly. What one transaction does to its
bytes is carried along such a row to what the transfer does to all of them. -/
namespace Lockdown

/-- The chunks lie end to end, from the first place up to the second. -/
inductive Tiles : Nat → List Chunk → Nat → Prop
  | nil (start : Nat) : Tiles start [] start
  | cons {start stop : Nat} {w : AccessWidth} {rest : List Chunk}
      (others : Tiles (start + w.bytes) rest stop) : Tiles start (⟨start, w⟩ :: rest) stop

namespace Tiles

variable {start stop : Nat} {chunks : List Chunk}

theorem le (h : Tiles start chunks stop) : start ≤ stop := by
  induction h with
  | nil start => exact Nat.le_refl start
  | cons _ ih => omega

theorem inside (h : Tiles start chunks stop) {c : Chunk} (hc : c ∈ chunks) :
    start ≤ c.offset ∧ c.offset + c.width.bytes ≤ stop := by
  induction h with
  | nil start => cases hc
  | cons others ih =>
    rcases List.mem_cons.1 hc with rfl | hc
    · exact ⟨Nat.le_refl _, others.le⟩
    · have hrest := ih hc
      omega

end Tiles

theorem chunksFrom_zero (ws : List AccessWidth) (offset : Nat) : chunksFrom ws offset 0 = [] := by
  induction ws with
  | nil => rw [chunksFrom]
  | cons w ws ih => rw [chunksFrom_cons_of_lt w.bytes_pos, ih]

theorem tiles_chunksFrom (ws : List AccessWidth) (h : AccessWidth.byte ∈ ws)
    (offset remaining : Nat) :
    Tiles offset (chunksFrom ws offset remaining) (offset + remaining) := by
  induction ws, offset, remaining using chunksFrom.induct with
  | case1 => cases h
  | case2 w ws offset remaining hfits ih =>
    have hrest := ih h
    rw [Nat.add_assoc, Nat.add_sub_cancel' hfits] at hrest
    rw [chunksFrom_cons_of_le hfits]
    exact .cons hrest
  | case3 w ws offset remaining hshort ih =>
    have hlt := Nat.not_le.1 hshort
    rw [chunksFrom_cons_of_lt hlt]
    by_cases hw : w = .byte
    · -- Less than a byte is nothing.
      subst hw
      cases Nat.lt_one_iff.1 hlt
      rw [chunksFrom_zero]
      exact .nil offset
    · exact ih (List.mem_of_ne_of_mem (Ne.symm hw) h)

theorem tiles_chunkPlan (length : Nat) : Tiles 0 (chunkPlan length) length := by
  have htiles := tiles_chunksFrom (AccessWidth.descending.filter fun w =>
    w.bytes ≤ AccessWidth.qword.bytes) (by decide) 0 length
  rwa [Nat.zero_add] at htiles

theorem chunk_inside {length : Nat} {c : Chunk} (hc : c ∈ chunkPlan length) :
    c.offset + c.width.bytes ≤ length :=
  ((tiles_chunkPlan length).inside hc).2

theorem chunkPlan_bytes (w : AccessWidth) : chunkPlan w.bytes = [⟨0, w⟩] := by
  cases w <;> decide

end Lockdown
