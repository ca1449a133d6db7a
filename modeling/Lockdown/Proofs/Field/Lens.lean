import Lockdown.Proofs.Field
import Lockdown.Proofs.Store.Fields

/-! A field as a lens into a register. What was put in is read back as far as the register has room
for it, and of two values put in the second stays. These laws hold of every place and size, so also
of a field that has no bits or lies past bit 63, which no store accepts. -/
namespace Lockdown.Field

variable {f g : Field}

theorem extract_insert_eq_mod (f : Field) (v new : UInt64) :
    (f.extract (f.insert v new)).toNat = new.toNat % 2 ^ min f.size.toNat (64 - f.bit.toNat) := by
  apply Nat.eq_of_testBit_eq
  intro i
  have hroom : i < f.size.toNat ∧ f.bit.toNat + i < 64 ↔
      i < min f.size.toNat (64 - f.bit.toNat) := by omega
  rw [testBit_extract_insert, Nat.testBit_mod_two_pow, decide_eq_decide.2 hroom]

theorem insert_extract (f : Field) (v : UInt64) : f.insert v (f.extract v) = v := by
  apply qword_ext
  intro i hi
  rw [testBit_insert f _ _ hi]
  split
  · rename_i hcovers
    have hsize : i - f.bit.toNat < f.size.toNat := by
      unfold top at hcovers
      omega
    rw [testBit_extract, decide_eq_true hsize, Bool.true_and, Nat.add_sub_cancel' hcovers.1]
  · rfl

theorem insert_insert (f : Field) (v first second : UInt64) :
    f.insert (f.insert v first) second = f.insert v second := by
  apply qword_ext
  intro i hi
  rw [testBit_insert f _ _ hi, testBit_insert f _ _ hi, testBit_insert f _ _ hi]
  split <;> rfl

theorem insert_and_not_mask (f : Field) (v new : UInt64) :
    f.insert v new &&& ~~~f.registerMask = v &&& ~~~f.registerMask := by
  apply qword_ext
  intro i hi
  rw [UInt64.toNat_and, UInt64.toNat_and, Nat.testBit_and, Nat.testBit_and, testBit_not _ hi,
    testBit_registerMask f hi, testBit_insert f _ _ hi]
  split
  · rename_i hcovers
    simp [hcovers]
  · rfl

theorem extractInPlace_eq_shiftUp (f : Field) (v : UInt64) :
    f.extractInPlace v = shiftUp (f.extract v) f.bit := by
  apply qword_ext
  intro i hi
  rw [extractInPlace, UInt64.toNat_and, Nat.testBit_and, testBit_registerMask f hi,
    testBit_shiftUp _ _ hi, testBit_extract]
  by_cases hle : f.bit.toNat ≤ i
  · have hsize : i - f.bit.toNat < f.size.toNat ↔ i < f.top := by
      unfold top
      omega
    rw [Nat.add_sub_cancel' hle, Bool.and_comm]
    simp [hle, hsize]
  · simp [hle]

theorem overlaps_comm (f g : Field) : f.overlaps g = g.overlaps f := Bool.and_comm _ _

theorem overlaps_iff_masks (hf : 0 < f.size.toNat) (hg : 0 < g.size.toNat) (htop : f.top ≤ 64)
    (hug : g.Unwrapped) : f.overlaps g = true ↔ f.registerMask &&& g.registerMask ≠ 0 := by
  have hbit : ∀ i < 64, (f.registerMask &&& g.registerMask).toNat.testBit i = true ↔
      f.Covers i ∧ g.Covers i := by
    intro i hi
    rw [UInt64.toNat_and, Nat.testBit_and, testBit_registerMask f hi, testBit_registerMask g hi,
      Bool.and_eq_true, decide_eq_true_iff, decide_eq_true_iff]
    rfl
  rw [overlaps_iff hf hg (Nat.lt_of_le_of_lt htop (by decide)) hug]
  constructor
  · rintro ⟨i, hi⟩ hzero
    have hset := (hbit i (hi.1.2.trans_le htop)).2 hi
    rw [hzero, UInt64.toNat_zero, Nat.zero_testBit] at hset
    cases hset
  · intro hshared
    by_contra hnone
    apply hshared
    apply qword_ext
    intro i hi
    rw [Bool.eq_false_iff.2 fun hset => hnone ⟨i, (hbit i hi).1 hset⟩, UInt64.toNat_zero,
      Nat.zero_testBit]

/-- The laws of a field, whatever its place and size. A value put in comes back cut to the bits that
the field has room for, which are none when it lies past the register. -/
theorem lens_exact (f g : Field) (v n m : UInt64) :
    f.insert v (f.extract v) = v ∧
    (f.extract (f.insert v n)).toNat = n.toNat % 2 ^ min f.size.toNat (64 - f.bit.toNat) ∧
    f.insert (f.insert v n) m = f.insert v m ∧
    f.insert v n &&& ~~~f.registerMask = v &&& ~~~f.registerMask ∧
    (f.bit < 64 → f.extractInPlace v = f.extract v <<< f.bit.toUInt64) ∧
    f.overlaps g = g.overlaps f ∧
    (1 ≤ f.size.toNat → 1 ≤ g.size.toNat → f.top ≤ 64 → g.Unwrapped →
      (f.overlaps g = true ↔ f.registerMask &&& g.registerMask ≠ 0)) := by
  refine ⟨f.insert_extract v, f.extract_insert_eq_mod v n, f.insert_insert v n m,
    f.insert_and_not_mask v n, ?_, f.overlaps_comm g, ?_⟩
  · intro hbit
    rw [extractInPlace_eq_shiftUp, shiftUp, if_pos hbit]
  · intro hf hg htop hug
    exact overlaps_iff_masks hf hg htop hug

theorem lens_exact_top :
    let f : Field := ⟨60, 4, "state"⟩
    let g : Field := ⟨63, 1, "lock"⟩
    f.overlaps g = true ∧ f.registerMask &&& g.registerMask ≠ 0 ∧
      f.extractInPlace 0xA000000000000001 = f.extract 0xA000000000000001 <<< 60 := by
  intro f g
  obtain ⟨-, -, -, -, hplace, -, hmasks⟩ := lens_exact f g 0xA000000000000001 0 0
  have hshared := hmasks (by decide) (by decide) (by decide) (by decide)
  exact ⟨by decide, hshared.1 (by decide), hplace (by decide)⟩

end Lockdown.Field
