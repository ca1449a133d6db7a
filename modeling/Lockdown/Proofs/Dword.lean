import Lockdown.Bus.Config
import Lockdown.Proofs.Field

/-! The bytes of a config dword, bit by bit. A read shifts them down and cuts what lies past the
end of the dword; a write of one or two bytes puts back as much as there is room for, and a write
of any other size forgets the shift. -/
namespace Lockdown

def byteShift (offset : UInt32) : Nat := 8 * (offset.toNat % 4)

/-- A size other than 1 and 2 stands for the whole dword. -/
def sizeBits (size : UInt32) : Nat := if size = 1 then 8 else if size = 2 then 16 else 32

variable {size : UInt32} {i : Nat}

theorem byteShift_le (offset : UInt32) : byteShift offset ≤ 24 := by
  unfold byteShift
  omega

theorem byteShift_eq_zero_iff (offset : UInt32) : byteShift offset = 0 ↔ offset % 4 = 0 := by
  rw [← UInt32.toNat_inj, UInt32.toNat_mod]
  change 8 * (offset.toNat % 4) = 0 ↔ offset.toNat % 4 = 0
  omega

theorem sizeBits_bytes {w : AccessWidth} (h : w ≠ .qword) :
    sizeBits (UInt32.ofNat w.bytes) = w.bits := by
  cases w with
  | qword => exact absurd rfl h
  | _ => decide

private theorem toNat_shift (offset : UInt32) : (offset % 4 * 8).toNat % 32 = byteShift offset := by
  rw [UInt32.toNat_mul, UInt32.toNat_mod, byteShift, show (4 : UInt32).toNat = 4 from rfl,
    show (8 : UInt32).toNat = 8 from rfl]
  omega

theorem testBit_past {v : UInt32} (h : 32 ≤ i) : v.toNat.testBit i = false :=
  Nat.testBit_lt_two_pow (Nat.lt_of_lt_of_le v.toNat_lt (Nat.pow_le_pow_right (by decide) h))

private theorem testBit_complement (v : UInt32) (hi : i < 32) :
    (~~~v).toNat.testBit i = !v.toNat.testBit i := by
  change (~~~v).toBitVec.getLsbD i = _
  rw [UInt32.toBitVec_not, BitVec.getLsbD_not, decide_eq_true hi, Bool.true_and]
  rfl

theorem dword_ext {v w : UInt32} (h : ∀ i < 32, v.toNat.testBit i = w.toNat.testBit i) : v = w := by
  rw [← UInt32.toNat_inj]
  apply Nat.eq_of_testBit_eq
  intro i
  rcases Nat.lt_or_ge i 32 with hi | hi
  · exact h i hi
  · rw [testBit_past hi, testBit_past hi]

theorem testBit_shiftDown_dword (v offset : UInt32) (i : Nat) :
    (v >>> (offset % 4 * 8)).toNat.testBit i = v.toNat.testBit (byteShift offset + i) := by
  rw [UInt32.toNat_shiftRight, toNat_shift, Nat.testBit_shiftRight]

theorem testBit_shiftUp_dword (v offset : UInt32) (hi : i < 32) :
    (v <<< (offset % 4 * 8)).toNat.testBit i =
      (decide (byteShift offset ≤ i) && v.toNat.testBit (i - byteShift offset)) := by
  rw [UInt32.toNat_shiftLeft, toNat_shift, Nat.testBit_mod_two_pow, Nat.testBit_shiftLeft,
    decide_eq_true hi, Bool.true_and]

theorem testBit_byteMask (i : Nat) : (0xFF : UInt32).toNat.testBit i = decide (i < 8) :=
  Nat.testBit_two_pow_sub_one 8 i

theorem testBit_wordMask (i : Nat) : (0xFFFF : UInt32).toNat.testBit i = decide (i < 16) :=
  Nat.testBit_two_pow_sub_one 16 i

theorem testBit_and_ones {v mask : UInt32} {n : Nat}
    (h : ∀ i, mask.toNat.testBit i = decide (i < n)) (i : Nat) :
    (v &&& mask).toNat.testBit i = (decide (i < n) && v.toNat.testBit i) := by
  rw [UInt32.toNat_and, Nat.testBit_and, h, Bool.and_comm]

theorem testBit_narrow (dword offset size : UInt32) (i : Nat) :
    (narrow dword offset size).toNat.testBit i =
      (decide (i < sizeBits size) && dword.toNat.testBit (byteShift offset + i)) := by
  unfold narrow sizeBits
  dsimp only
  split
  · rw [testBit_and_ones testBit_byteMask, testBit_shiftDown_dword]
  · split
    · rw [testBit_and_ones testBit_wordMask, testBit_shiftDown_dword]
    · rw [testBit_shiftDown_dword]
      by_cases hi : i < 32
      · rw [decide_eq_true hi, Bool.true_and]
      · rw [testBit_past (by omega), Bool.and_false]

theorem merge_of_whole (h1 : size ≠ 1) (h2 : size ≠ 2) (old offset value : UInt32) :
    merge old offset size value = value := by
  rw [merge, if_neg (not_or.2 ⟨h1, h2⟩)]

theorem merge_eq_of_narrow {w : AccessWidth} (h : w = .byte ∨ w = .word)
    (old offset value : UInt32) :
    merge old offset (UInt32.ofNat w.bytes) value =
      (old &&& ~~~(w.mask.toUInt32 <<< (offset % 4 * 8))) |||
        ((value &&& w.mask.toUInt32) <<< (offset % 4 * 8)) := by
  rw [UInt32.shiftLeft_and]
  rcases h with rfl | rfl <;> rfl

theorem testBit_merge (hsize : size = 1 ∨ size = 2) (old offset value : UInt32) (hi : i < 32) :
    (merge old offset size value).toNat.testBit i =
      if byteShift offset ≤ i ∧ i < byteShift offset + sizeBits size then
        value.toNat.testBit (i - byteShift offset)
      else old.toNat.testBit i := by
  have hmask : ∀ k, (if size = 1 then 0xFF else 0xFFFF : UInt32).toNat.testBit k =
      decide (k < sizeBits size) := by
    rcases hsize with rfl | rfl
    · exact testBit_byteMask
    · exact testBit_wordMask
  rw [merge, if_pos hsize]
  dsimp only
  rw [UInt32.toNat_or, UInt32.toNat_and, UInt32.toNat_and, Nat.testBit_or, Nat.testBit_and,
    Nat.testBit_and, testBit_complement _ hi, testBit_shiftUp_dword _ _ hi,
    testBit_shiftUp_dword _ _ hi, hmask]
  by_cases hlow : byteShift offset ≤ i
  · by_cases hhigh : i < byteShift offset + sizeBits size
    · have hin : i - byteShift offset < sizeBits size := by omega
      simp [hlow, hhigh, hin]
    · have hout : ¬ i - byteShift offset < sizeBits size := by omega
      simp [hlow, hhigh, hout]
  · simp [hlow]

theorem testBit_merge_of_placed {offset : UInt32}
    (h : size = 1 ∨ size = 2 ∨ byteShift offset = 0) (old value : UInt32) (hi : i < 32) :
    (merge old offset size value).toNat.testBit i =
      if byteShift offset ≤ i ∧ i < byteShift offset + sizeBits size then
        value.toNat.testBit (i - byteShift offset)
      else old.toNat.testBit i := by
  by_cases hsize : size = 1 ∨ size = 2
  · exact testBit_merge hsize old offset value hi
  · obtain ⟨h1, h2⟩ := not_or.1 hsize
    have hshift : byteShift offset = 0 := (h.resolve_left h1).resolve_left h2
    have hbits : sizeBits size = 32 := by rw [sizeBits, if_neg h1, if_neg h2]
    rw [merge_of_whole h1 h2, hshift, hbits, if_pos ⟨Nat.zero_le i, by omega⟩, Nat.sub_zero]

/-- What is read back is what was written, without the bits that found no room in the dword. -/
theorem testBit_narrow_merge (hsize : size = 1 ∨ size = 2) (old offset value : UInt32) (i : Nat) :
    (narrow (merge old offset size value) offset size).toNat.testBit i =
      (decide (i < sizeBits size ∧ byteShift offset + i < 32) && value.toNat.testBit i) := by
  rw [testBit_narrow]
  by_cases hroom : byteShift offset + i < 32
  · by_cases hi : i < sizeBits size
    · rw [testBit_merge hsize _ _ _ hroom, if_pos ⟨by omega, by omega⟩, Nat.add_sub_cancel_left]
      simp [hi, hroom]
    · simp [hi]
  · rw [testBit_past (by omega)]
    simp [hroom]

private theorem narrow_merge_eq_and {mask : UInt32} {n : Nat} (hsize : size = 1 ∨ size = 2)
    (old value : UInt32) {offset : UInt32} (hmask : ∀ i, mask.toNat.testBit i = decide (i < n))
    (hroom : ∀ i, i < sizeBits size ∧ byteShift offset + i < 32 ↔ i < n) :
    narrow (merge old offset size value) offset size = value &&& mask := by
  apply dword_ext
  intro i _
  rw [testBit_narrow_merge hsize, testBit_and_ones hmask, decide_eq_decide.2 (hroom i)]

/-- Two bytes at the last byte of a dword leave room for one. -/
theorem narrow_merge (old offset size value : UInt32) :
    narrow (merge old offset size value) offset size =
      if size = 1 ∨ size = 2 ∧ offset % 4 = 3 then value &&& 0xFF
      else if size = 2 then value &&& 0xFFFF
      else value >>> (offset % 4 * 8) := by
  have hlast : offset % 4 = 3 ↔ offset.toNat % 4 = 3 := by
    rw [← UInt32.toNat_inj, UInt32.toNat_mod]
    rfl
  by_cases h1 : size = 1
  · subst h1
    rw [if_pos (.inl rfl)]
    have hle := byteShift_le offset
    apply narrow_merge_eq_and (.inl rfl) old value testBit_byteMask
    simp only [sizeBits, ↓reduceIte]
    omega
  · by_cases h2 : size = 2
    · subst h2
      by_cases h3 : offset % 4 = 3
      · rw [if_pos (.inr ⟨rfl, h3⟩)]
        apply narrow_merge_eq_and (.inr rfl) old value testBit_byteMask
        simp only [sizeBits, byteShift, hlast.1 h3, h1, ↓reduceIte]
        omega
      · have hbefore : offset.toNat % 4 ≠ 3 := fun h => h3 (hlast.2 h)
        rw [if_neg (by simp [h3]), if_pos rfl]
        apply narrow_merge_eq_and (.inr rfl) old value testBit_wordMask
        simp only [sizeBits, byteShift, h1, ↓reduceIte]
        omega
    · rw [if_neg (by simp [h1, h2]), if_neg h2, merge_of_whole h1 h2, narrow]
      simp only [h1, h2, ↓reduceIte]

example : narrow (merge 0x12345678 0xFF 2 0xBEEF) 0xFF 2 = 0xEF := by decide

theorem testBit_toUInt32 (v : UInt64) (hi : i < 32) :
    v.toUInt32.toNat.testBit i = v.toNat.testBit i := by
  rw [UInt64.toNat_toUInt32, Nat.testBit_mod_two_pow, decide_eq_true hi, Bool.true_and]

theorem testBit_high (v : UInt64) (hi : i < 32) :
    (v >>> 32).toUInt32.toNat.testBit i = v.toNat.testBit (32 + i) := by
  rw [testBit_toUInt32 _ hi, UInt64.toNat_shiftRight, Nat.testBit_shiftRight]
  rfl

theorem testBit_joinAddress (high low : UInt32) (hi : i < 64) :
    (joinAddress high low).toNat.testBit i =
      if i < 32 then low.toNat.testBit i else high.toNat.testBit (i - 32) := by
  have hshift : (32 : UInt64).toNat % 64 = 32 := rfl
  rw [joinAddress, UInt64.toNat_or, Nat.testBit_or, UInt64.toNat_shiftLeft, hshift,
    Nat.testBit_mod_two_pow, Nat.testBit_shiftLeft, UInt32.toNat_toUInt64, UInt32.toNat_toUInt64,
    decide_eq_true hi, Bool.true_and]
  by_cases h : i < 32
  · simp [h, Nat.not_le.2 h]
  · simp [h, Nat.le_of_not_lt h, testBit_past (Nat.le_of_not_lt h)]

theorem toUInt32_joinAddress (high low : UInt32) : (joinAddress high low).toUInt32 = low := by
  apply dword_ext
  intro i hi
  rw [testBit_toUInt32 _ hi, testBit_joinAddress high low (by omega), if_pos hi]

theorem high_joinAddress (high low : UInt32) : (joinAddress high low >>> 32).toUInt32 = high := by
  apply dword_ext
  intro i hi
  rw [testBit_high _ hi, testBit_joinAddress high low (by omega), if_neg (by omega),
    Nat.add_sub_cancel_left]

theorem joinAddress_halves (v : UInt64) : joinAddress (v >>> 32).toUInt32 v.toUInt32 = v := by
  apply qword_ext
  intro i hi
  rw [testBit_joinAddress _ _ hi]
  by_cases h : i < 32
  · rw [if_pos h, testBit_toUInt32 _ h]
  · rw [if_neg h, testBit_high _ (by omega), Nat.add_sub_cancel' (Nat.le_of_not_lt h)]

end Lockdown
