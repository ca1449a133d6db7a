import Lockdown.Pci
import Mathlib.Tactic.IntervalCases

/-! What the configuration latch keeps of an address. Every field is cut to its place; the two low
bits of an offset land on reserved bits and come back as such. -/
namespace Lockdown.ConfigAddress

private theorem eq_of_bits {x y : UInt32}
    (h : ∀ i < 32, x.toBitVec.getLsbD i = y.toBitVec.getLsbD i) : x = y :=
  UInt32.toBitVec_inj.1 (BitVec.eq_of_getLsbD_eq h)

private theorem enable_bit (a : ConfigAddress) :
    a.encode &&& 0x80000000 = if a.enable then 0x80000000 else 0 := by
  obtain ⟨enable, bus, device, function, offset, reserved⟩ := a
  apply eq_of_bits
  intro i hi
  simp only [encode, reservedMask, UInt32.toBitVec_and, UInt32.toBitVec_or,
    UInt32.toBitVec_shiftLeft, BitVec.getLsbD_and, BitVec.getLsbD_or, BitVec.shiftLeft_eq',
    BitVec.getLsbD_shiftLeft, apply_ite UInt32.toBitVec, UInt32.toBitVec_ofNat]
  interval_cases i <;> cases enable <;> simp

/-- The places of the fields do not meet, so each is read back by itself. -/
theorem decode_encode (a : ConfigAddress) :
    decode a.encode =
      ⟨a.enable, a.bus &&& 0xFF, a.device &&& 0x1F, a.function &&& 7, a.offset &&& 0xFC,
        (a.reserved &&& reservedMask) ||| (a.offset &&& 3)⟩ := by
  simp only [decode, enable_bit, mk.injEq]
  refine ⟨by cases a.enable <;> decide, ?_⟩
  obtain ⟨enable, bus, device, function, offset, reserved⟩ := a
  refine ⟨?_, ?_, ?_, ?_, ?_⟩
  -- Shifts and masks are opened while the bit is a variable, and only then is it fixed.
  all_goals
    apply eq_of_bits
    intro i hi
    simp only [encode, reservedMask, UInt32.toBitVec_and, UInt32.toBitVec_or,
      UInt32.toBitVec_shiftRight, UInt32.toBitVec_shiftLeft, BitVec.getLsbD_and,
      BitVec.getLsbD_or, BitVec.ushiftRight_eq', BitVec.getLsbD_ushiftRight, BitVec.shiftLeft_eq',
      BitVec.getLsbD_shiftLeft, apply_ite UInt32.toBitVec, UInt32.toBitVec_ofNat]
    interval_cases i <;> simp <;> cases enable <;> simp

/-- A cycle for a place selects the dword that holds it, whatever the latch held before. -/
theorem selected?_forCycle (previous : UInt32) (l : PciLocation) :
    (decode (forCycle previous l).encode).selected? = some l.dword := by
  rw [decode_encode]
  simp [selected?, forCycle, PciLocation.dword, dwordOffset, UInt32.and_assoc]

theorem reserved_encode (a : ConfigAddress) :
    a.encode &&& reservedMask = (a.reserved &&& reservedMask) ||| (a.offset &&& 3) :=
  congrArg reserved (decode_encode a)

theorem reserved_forCycle (previous : UInt32) (l : PciLocation) :
    (forCycle previous l).encode &&& reservedMask =
      (previous &&& reservedMask) ||| (l.offset &&& 3) := by
  rw [reserved_encode, forCycle, UInt32.and_assoc, UInt32.and_self]

end Lockdown.ConfigAddress
