import Lockdown.Field

/-! Fields bit by bit. A shift of 64 or more leaves nothing, and so does a field there. -/
namespace Lockdown

theorem testBit_eq_false_of_le {v : UInt64} {i : Nat} (h : 64 ≤ i) : v.toNat.testBit i = false :=
  Nat.testBit_lt_two_pow (Nat.lt_of_lt_of_le v.toNat_lt (Nat.pow_le_pow_right (by decide) h))

theorem qword_ext {v w : UInt64} (h : ∀ i < 64, v.toNat.testBit i = w.toNat.testBit i) : v = w := by
  rw [← UInt64.toNat_inj]
  apply Nat.eq_of_testBit_eq
  intro i
  rcases Nat.lt_or_ge i 64 with hi | hi
  · exact h i hi
  · rw [testBit_eq_false_of_le hi, testBit_eq_false_of_le hi]

theorem testBit_shiftDown (v : UInt64) (n : UInt32) (i : Nat) :
    (shiftDown v n).toNat.testBit i = v.toNat.testBit (n.toNat + i) := by
  unfold shiftDown
  split
  · rename_i h
    have hn : n.toUInt64.toNat % 64 = n.toNat := by
      rw [UInt32.toNat_toUInt64]
      exact Nat.mod_eq_of_lt h
    rw [UInt64.toNat_shiftRight, hn, Nat.testBit_shiftRight]
  · rename_i h
    have hn : 64 ≤ n.toNat := Nat.le_of_not_lt h
    have hbit : v.toNat.testBit (n.toNat + i) = false := testBit_eq_false_of_le (by omega)
    rw [hbit, UInt64.toNat_zero, Nat.zero_testBit]

theorem testBit_shiftUp (v : UInt64) (n : UInt32) {i : Nat} (hi : i < 64) :
    (shiftUp v n).toNat.testBit i = (decide (n.toNat ≤ i) && v.toNat.testBit (i - n.toNat)) := by
  unfold shiftUp
  split
  · rename_i h
    have hn : n.toUInt64.toNat % 64 = n.toNat := by
      rw [UInt32.toNat_toUInt64]
      exact Nat.mod_eq_of_lt h
    rw [UInt64.toNat_shiftLeft, hn, Nat.testBit_mod_two_pow, Nat.testBit_shiftLeft,
      decide_eq_true hi, Bool.true_and]
  · rename_i h
    have hn : 64 ≤ n.toNat := Nat.le_of_not_lt h
    have hle : ¬ n.toNat ≤ i := by omega
    rw [UInt64.toNat_zero, Nat.zero_testBit, decide_eq_false hle, Bool.false_and]

theorem testBit_not (v : UInt64) {i : Nat} (hi : i < 64) :
    (~~~v).toNat.testBit i = !v.toNat.testBit i := by
  change (~~~v).toBitVec.getLsbD i = _
  rw [UInt64.toBitVec_not, BitVec.getLsbD_not, decide_eq_true hi, Bool.true_and]
  rfl

namespace Field

/-- One past the highest bit covered, as an exact sum. -/
def top (f : Field) : Nat := f.bit.toNat + f.size.toNat

def Unwrapped (f : Field) : Prop := f.top < UInt32.size

instance (f : Field) : Decidable f.Unwrapped := inferInstanceAs (Decidable (_ < _))

theorem toNat_stop {f : Field} (h : f.Unwrapped) : f.stop.toNat = f.top :=
  (UInt32.toNat_add f.bit f.size).trans (Nat.mod_eq_of_lt h)

theorem testBit_valueMask (f : Field) (i : Nat) :
    f.valueMask.toNat.testBit i = decide (i < f.size.toNat ∧ i < 64) := by
  unfold valueMask
  split
  · rename_i h
    have hsize : f.size.toNat < 64 := h
    have hmod : f.size.toUInt64.toNat % 64 = f.size.toNat := by
      rw [UInt32.toNat_toUInt64]
      exact Nat.mod_eq_of_lt hsize
    have hpow : 2 ^ f.size.toNat < 2 ^ 64 := Nat.pow_lt_pow_right (by decide) hsize
    have hone : (1 <<< f.size.toUInt64 : UInt64).toNat = 2 ^ f.size.toNat := by
      rw [UInt64.toNat_shiftLeft, hmod, Nat.shiftLeft_eq, UInt64.toNat_one, Nat.one_mul,
        Nat.mod_eq_of_lt hpow]
    have hle : (1 : UInt64) ≤ 1 <<< f.size.toUInt64 := by
      rw [UInt64.le_iff_toNat_le, hone]
      exact Nat.one_le_two_pow
    rw [UInt64.toNat_sub_of_le _ _ hle, hone, UInt64.toNat_one, Nat.testBit_two_pow_sub_one]
    apply decide_eq_decide.2
    omega
  · rename_i h
    have hsize : 64 ≤ f.size.toNat := Nat.le_of_not_lt h
    rw [show (0xFFFFFFFFFFFFFFFF : UInt64).toNat = 2 ^ 64 - 1 from rfl, Nat.testBit_two_pow_sub_one]
    apply decide_eq_decide.2
    omega

theorem testBit_extract (f : Field) (v : UInt64) (i : Nat) :
    (f.extract v).toNat.testBit i =
      (decide (i < f.size.toNat) && v.toNat.testBit (f.bit.toNat + i)) := by
  rw [extract, UInt64.toNat_and, Nat.testBit_and, testBit_shiftDown, testBit_valueMask,
    Bool.and_comm]
  by_cases hi : i < 64
  · simp [hi]
  · rw [testBit_eq_false_of_le (by omega), Bool.and_false, Bool.and_false]

theorem extract_of_size_one {f : Field} (h : f.size = 1) (v : UInt64) :
    f.extract v = if v.toNat.testBit f.bit.toNat then 1 else 0 := by
  apply qword_ext
  intro i _
  rw [testBit_extract, h]
  cases i with
  | zero => cases v.toNat.testBit f.bit.toNat <;> simp
  | succ i => cases v.toNat.testBit f.bit.toNat <;> simp [Nat.testBit_succ]

theorem testBit_registerMask (f : Field) {i : Nat} (hi : i < 64) :
    f.registerMask.toNat.testBit i = decide (f.bit.toNat ≤ i ∧ i < f.top) := by
  rw [registerMask, testBit_shiftUp _ _ hi, testBit_valueMask, ← Bool.decide_and]
  apply decide_eq_decide.2
  simp only [top]
  omega

theorem testBit_insert (f : Field) (v new : UInt64) {i : Nat} (hi : i < 64) :
    (f.insert v new).toNat.testBit i =
      if f.bit.toNat ≤ i ∧ i < f.top then new.toNat.testBit (i - f.bit.toNat)
      else v.toNat.testBit i := by
  rw [insert, UInt64.toNat_or, UInt64.toNat_and, UInt64.toNat_and, Nat.testBit_or,
    Nat.testBit_and, Nat.testBit_and, testBit_not _ hi, testBit_registerMask f hi,
    testBit_shiftUp _ _ hi]
  by_cases h : f.bit.toNat ≤ i ∧ i < f.top
  · simp [h]
  · simp [h]

theorem testBit_extract_insert (f : Field) (v new : UInt64) (i : Nat) :
    (f.extract (f.insert v new)).toNat.testBit i =
      (decide (i < f.size.toNat ∧ f.bit.toNat + i < 64) && new.toNat.testBit i) := by
  rw [testBit_extract]
  by_cases hroom : f.bit.toNat + i < 64
  · rw [testBit_insert f v new hroom, Nat.add_sub_cancel_left]
    by_cases hsize : i < f.size.toNat
    · have hcovers : f.bit.toNat ≤ f.bit.toNat + i ∧ f.bit.toNat + i < f.top := by
        unfold top
        omega
      simp [hsize, hroom, hcovers]
    · simp [hsize]
  · rw [testBit_eq_false_of_le (Nat.le_of_not_lt hroom)]
    simp [hroom]

end Field

end Lockdown
