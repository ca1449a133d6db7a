import Lockdown.Proofs.Dword
import Lockdown.Proofs.Latch
import Mathlib.Data.Nat.Bitwise

/-! The latch read back as the value that it was read from. Its fields are masks of one word that
cover all of it, so no bit of a value is lost. An address comes back unchanged just when each of its
fields fits and its offset is that of a dword, as the two low bits of an offset come back as
reserved ones. -/
namespace Lockdown

theorem dword_and_or (v a b : UInt32) : v &&& (a ||| b) = v &&& a ||| v &&& b := by
  rw [← UInt32.toBitVec_inj]
  exact BitVec.and_or_distrib_left

theorem shiftLeft_and_shiftRight (v mask n : UInt32) :
    ((v >>> n) &&& mask) <<< n = v &&& (mask <<< n) := by
  apply dword_ext
  intro i hi
  rw [UInt32.toNat_and, Nat.testBit_and, UInt32.toNat_shiftLeft, UInt32.toNat_shiftLeft,
    Nat.testBit_mod_two_pow, Nat.testBit_mod_two_pow, Nat.testBit_shiftLeft, Nat.testBit_shiftLeft,
    UInt32.toNat_and, Nat.testBit_and, UInt32.toNat_shiftRight, Nat.testBit_shiftRight]
  by_cases hle : n.toNat % 32 ≤ i
  · simp [hi, hle]
  · simp [hle]

theorem ite_and_twoPow {bit : UInt32} {k : Nat} (hbit : bit.toNat = 2 ^ k) (v : UInt32) :
    (if v &&& bit != 0 then bit else 0) = v &&& bit := by
  have hand : (v &&& bit).toNat = (v.toNat.testBit k).toNat * 2 ^ k := by
    rw [UInt32.toNat_and, hbit, Nat.and_two_pow]
  have hpos : 0 < bit.toNat := hbit ▸ Nat.two_pow_pos k
  have hbit_ne : bit ≠ 0 := by
    rintro rfl
    exact absurd hpos (Nat.lt_irrefl 0)
  cases hset : v.toNat.testBit k with
  | false =>
    have hzero : v &&& bit = 0 := by
      rw [← UInt32.toNat_inj, hand, hset]
      simp
    simp [hzero]
  | true =>
    have hself : v &&& bit = bit := by
      rw [← UInt32.toNat_inj, hand, hset, hbit]
      simp
    simp [hself, hbit_ne]

theorem toNat_and_ones (v : UInt32) {mask : UInt32} {k : Nat} (hmask : mask.toNat = 2 ^ k - 1) :
    (v &&& mask).toNat = v.toNat % 2 ^ k := by
  rw [UInt32.toNat_and, hmask, Nat.and_two_pow_sub_one_eq_mod]

theorem and_ones_eq_self_iff (v : UInt32) {mask : UInt32} {k : Nat}
    (hmask : mask.toNat = 2 ^ k - 1) : v &&& mask = v ↔ ¬ v > mask := by
  have hpos : 0 < 2 ^ k := Nat.two_pow_pos k
  rw [← UInt32.toNat_inj, toNat_and_ones v hmask, gt_iff_lt, UInt32.lt_iff_toNat_lt, hmask]
  constructor
  · intro h
    have hlt := Nat.mod_lt v.toNat hpos
    omega
  · intro h
    exact Nat.mod_eq_of_lt (by omega)

theorem and_three_eq_zero_iff (v : UInt32) : v &&& 3 = 0 ↔ v % 4 = 0 := by
  have hlow : v &&& 3 = v % 4 := by
    rw [← UInt32.toNat_inj, toNat_and_ones v (k := 2) rfl, UInt32.toNat_mod]
    rfl
  rw [hlow]

namespace ConfigAddress

/-- Every field cut to what its place in the latch can hold. -/
def truncated (a : ConfigAddress) : ConfigAddress where
  enable := a.enable
  bus := a.bus &&& 0xFF
  device := a.device &&& 0x1F
  function := a.function &&& 0x07
  offset := a.offset &&& 0xFF
  reserved := a.reserved &&& reservedMask

theorem encode_decode (v : UInt32) : (decode v).encode = v := by
  have henable : (if (decode v).enable then (0x80000000 : UInt32) else 0) = v &&& 0x80000000 :=
    ite_and_twoPow (k := 31) (by decide) v
  have hoffset : (0xFC &&& 0xFF : UInt32) = 0xFC := by decide
  have hall : reservedMask ||| 0x80000000 ||| (0xFF : UInt32) <<< (16 : UInt32) |||
      (0x1F : UInt32) <<< (11 : UInt32) ||| (0x07 : UInt32) <<< (8 : UInt32) ||| 0xFC = -1 := by
    decide
  rw [encode, henable]
  simp only [decode, UInt32.and_assoc, UInt32.and_self, hoffset, shiftLeft_and_shiftRight]
  rw [← dword_and_or, ← dword_and_or, ← dword_and_or, ← dword_and_or, ← dword_and_or, hall,
    UInt32.and_neg_one]

theorem encode_truncated (a : ConfigAddress) : a.truncated.encode = a.encode := by
  simp only [encode, truncated, UInt32.and_assoc, UInt32.and_self]
  rfl

theorem validate_eq_ok_iff (a : ConfigAddress) : a.validate = .ok () ↔
    ¬ a.bus > 0xFF ∧ ¬ a.device > 0x1F ∧ ¬ a.function > 0x07 ∧ ¬ a.offset > 0xFF := by
  unfold validate
  split_ifs <;> simp_all

theorem validate_truncated (a : ConfigAddress) : a.truncated.validate = .ok () := by
  have hself : ∀ (v mask : UInt32) (k : Nat), mask.toNat = 2 ^ k - 1 → ¬ (v &&& mask) > mask := by
    intro v mask k hmask
    rw [← and_ones_eq_self_iff _ hmask, UInt32.and_assoc, UInt32.and_self]
  rw [validate_eq_ok_iff]
  exact ⟨hself _ _ 8 rfl, hself _ _ 5 rfl, hself _ _ 3 rfl, hself _ _ 8 rfl⟩

theorem offset_and_eq_self_iff (v : UInt32) : v &&& 0xFC = v ↔ ¬ v > 0xFF ∧ v % 4 = 0 := by
  have hsplit : v &&& 0xFF = v &&& 0xFC ||| v &&& 3 := by
    rw [← dword_and_or]
    rfl
  rw [← and_ones_eq_self_iff v (k := 8) rfl, ← and_three_eq_zero_iff]
  constructor
  · intro h
    have hlow : v &&& 3 = 0 := by
      rw [← h, UInt32.and_assoc]
      exact UInt32.and_zero
    exact ⟨by rw [hsplit, h, hlow, UInt32.or_zero], hlow⟩
  · rintro ⟨h, hlow⟩
    rwa [hsplit, hlow, UInt32.or_zero] at h

theorem decode_encode_eq_self_iff (a : ConfigAddress) : decode a.encode = a ↔
    a.validate = .ok () ∧ a.offset % 4 = 0 ∧ a.reserved &&& reservedMask = a.reserved := by
  have hbus : a.bus &&& 0xFF = a.bus ↔ ¬ a.bus > 0xFF := and_ones_eq_self_iff a.bus (k := 8) rfl
  have hdevice : a.device &&& 0x1F = a.device ↔ ¬ a.device > 0x1F :=
    and_ones_eq_self_iff a.device (k := 5) rfl
  have hfunction : a.function &&& 7 = a.function ↔ ¬ a.function > 7 :=
    and_ones_eq_self_iff a.function (k := 3) rfl
  rw [decode_encode, validate_eq_ok_iff]
  obtain ⟨enable, bus, device, function, offset, reserved⟩ := a
  simp only [mk.injEq, true_and, hbus, hdevice, hfunction, offset_and_eq_self_iff]
  constructor
  · rintro ⟨hb, hd, hf, ⟨ho, haligned⟩, hr⟩
    rw [(and_three_eq_zero_iff offset).2 haligned, UInt32.or_zero] at hr
    exact ⟨⟨hb, hd, hf, ho⟩, haligned, hr⟩
  · rintro ⟨⟨hb, hd, hf, ho⟩, haligned, hr⟩
    rw [(and_three_eq_zero_iff offset).2 haligned, UInt32.or_zero]
    exact ⟨hb, hd, hf, ⟨ho, haligned⟩, hr⟩

/-- A latch and the address it holds. Of a value the lower half comes back, and an address comes
back cut to the places of its fields, with the two low bits of its offset among the reserved ones;
what is written for it is what is written for the address cut beforehand. -/
theorem raw_exact (x : UInt64) (a : ConfigAddress) :
    (ofRaw x).toRaw.toNat = x.toNat % 2 ^ 32 ∧
    ofRaw a.toRaw =
      { enable := a.enable
        bus := a.bus &&& 0xFF
        device := a.device &&& 0x1F
        function := a.function &&& 7
        offset := a.offset &&& 0xFC
        reserved := (a.reserved &&& 0x7F000003) ||| (a.offset &&& 3) } ∧
    (ofRaw a.toRaw = a ↔
      a.validate = .ok () ∧ a.offset % 4 = 0 ∧ a.reserved &&& reservedMask = a.reserved) ∧
    a.truncated.toRaw = a.toRaw ∧
    a.truncated.validate = .ok () := by
  have hread : ofRaw a.toRaw = decode a.encode := by
    rw [ofRaw, toRaw, UInt32.toUInt32_toUInt64]
  refine ⟨?_, hread.trans a.decode_encode, ?_, ?_, a.validate_truncated⟩
  · rw [ofRaw, toRaw, encode_decode, UInt32.toNat_toUInt64, UInt64.toNat_toUInt32]
  · rw [hread]
    exact a.decode_encode_eq_self_iff
  · rw [toRaw, toRaw, a.encode_truncated]

example : ofRaw (toRaw ⟨true, 0x100, 31, 8, 0x103, 0⟩) = ⟨true, 0, 31, 0, 0, 3⟩ := by decide

end ConfigAddress

end Lockdown
