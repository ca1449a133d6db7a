import Lockdown.Bus.Memory
import Lockdown.Proofs.Access
import Lockdown.Proofs.Sequence
import Lockdown.Proofs.Transfer

/-! The addresses of a transfer. When its last byte has an address so has each of its chunks, so the
checks that are made chunk by chunk always pass, and a transfer is refused as a whole or not at all.
-/
namespace Lockdown

variable {σ : Type} {address : UInt64} {length : Nat}

theorem chunkAddress_eq_ok (hin : inAddressSpace address length = true) {offset : Nat}
    (h : offset < length) :
    chunkAddress address offset length = .ok (address + UInt64.ofNat offset) := by
  have hend : address.toNat + length ≤ UInt64.size := of_decide_eq_true hin
  exact if_pos (by omega)

theorem chunkAddress_of_mem (hin : inAddressSpace address length = true) {c : Chunk}
    (hc : c ∈ chunkPlan length) :
    chunkAddress address c.offset length = .ok (address + UInt64.ofNat c.offset) := by
  have hinside := chunk_inside hc
  have hpos := c.width.bytes_pos
  exact chunkAddress_eq_ok hin (by omega)

theorem inAddressSpace_succ (address : UInt64) (last : Nat) :
    inAddressSpace address (last + 1) = decide (address.toNat + last < UInt64.size) :=
  decide_eq_decide.2 Nat.succ_le_iff

theorem checkSpan_eq (address : UInt64) (length : Nat) :
    (checkSpan address length : Access σ Unit) =
      if inAddressSpace address length then pure ()
      else throw (.addressOverflow address length) := by
  cases length with
  | zero =>
    have hempty : inAddressSpace address 0 = true := decide_eq_true (Nat.le_of_lt address.toNat_lt)
    rw [hempty]
    rfl
  | succ last =>
    rw [checkSpan, chunkAddress, inAddressSpace_succ]
    by_cases hlast : address.toNat + last < UInt64.size
    · simp only [hlast, if_true, decide_true]
      rfl
    · simp only [hlast, if_false, decide_false, Bool.false_eq_true]
      rfl

namespace Bus

variable [Bus σ]

/-- What each chunk asks for is never refused. -/
theorem readPhysical_eq (address : UInt64) (length : Nat) :
    (readPhysical address length : Access σ (List UInt8)) = (do
      checkSpan address length
      let parts ← (chunkPlan length).mapM fun c => do
        let value ← memRead (address + UInt64.ofNat c.offset) c.width
        return bytesLE c.width.bytes value
      return parts.flatten) := by
  unfold readPhysical
  rw [checkSpan_eq]
  cases hin : inAddressSpace address length with
  | false => rfl
  | true =>
    rw [mapM_congr fun c hc => ?_]
    rw [chunkAddress_of_mem hin hc, Access.ofExcept_ok_bind]

theorem writePhysical_eq (address : UInt64) (data : List UInt8) :
    (writePhysical address data : Access σ Unit) = (do
      checkSpan address data.length
      (chunkPlan data.length).forM fun c =>
        memWrite (address + UInt64.ofNat c.offset) c.width
          (unpack (data.drop c.offset) c.width)) := by
  unfold writePhysical
  rw [checkSpan_eq]
  cases hin : inAddressSpace address data.length with
  | false => rfl
  | true =>
    rw [forM_congr fun c hc => ?_]
    rw [chunkAddress_of_mem hin hc, Access.ofExcept_ok_bind]

end Bus

end Lockdown
