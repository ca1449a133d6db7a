import Lockdown.Transfer
import Mathlib.Algebra.Group.Nat.Defs

/-! Words and their little-endian bytes. A list of at most eight bytes is a number in base 256, so
nothing is lost on the way to a word and back. -/
namespace Lockdown

theorem AccessWidth.bytes_le_eight (w : AccessWidth) : w.bytes ≤ 8 := by cases w <;> decide

def numberLE : List UInt8 → Nat
  | [] => 0
  | b :: bs => b.toNat + 256 * numberLE bs

theorem numberLE_lt (bs : List UInt8) : numberLE bs < 256 ^ bs.length := by
  induction bs with
  | nil => simp [numberLE]
  | cons b bs ih =>
    have hb := b.toNat_lt
    rw [numberLE, List.length_cons, Nat.pow_succ]
    omega

theorem numberLE_lt_of_length_le {bs : List UInt8} {n : Nat} (h : bs.length ≤ n) :
    numberLE bs < 256 ^ n :=
  Nat.lt_of_lt_of_le (numberLE_lt bs) (Nat.pow_le_pow_right (by decide) h)

theorem toNat_ofBytesLE {bs : List UInt8} (h : bs.length ≤ 8) :
    (ofBytesLE bs).toNat = numberLE bs := by
  induction bs with
  | nil => rfl
  | cons b bs ih =>
    have hlen : bs.length ≤ 7 := Nat.le_of_succ_le_succ h
    have hrest : numberLE bs < 256 ^ 7 := numberLE_lt_of_length_le hlen
    have hb := b.toNat_lt
    rw [ofBytesLE, UInt64.toNat_or, UInt64.toNat_shiftLeft, ih (by omega), UInt8.toNat_toUInt64,
      numberLE]
    have hshift : numberLE bs <<< ((8 : UInt64).toNat % 64) % 2 ^ 64 = 2 ^ 8 * numberLE bs := by
      rw [show (8 : UInt64).toNat % 64 = 8 from rfl, Nat.shiftLeft_eq, Nat.mod_eq_of_lt (by omega),
        Nat.mul_comm]
    rw [hshift, Nat.or_comm, ← Nat.two_pow_add_eq_or_of_lt hb]
    omega

theorem bytesLE_ofBytesLE {bs : List UInt8} (h : bs.length ≤ 8) :
    bytesLE bs.length (ofBytesLE bs) = bs := by
  induction bs with
  | nil => rfl
  | cons b bs ih =>
    have hlen : bs.length ≤ 7 := Nat.le_of_succ_le_succ h
    have hrest : numberLE bs < 256 ^ 7 := numberLE_lt_of_length_le hlen
    have hword := toNat_ofBytesLE h
    have hword' := toNat_ofBytesLE (show bs.length ≤ 8 by omega)
    have hb := b.toNat_lt
    rw [numberLE] at hword
    rw [List.length_cons, bytesLE]
    congr 1
    · rw [← UInt8.toNat_inj, UInt64.toNat_toUInt8, hword]
      omega
    · have hshift : ofBytesLE (b :: bs) >>> 8 = ofBytesLE bs := by
        rw [← UInt64.toNat_inj, UInt64.toNat_shiftRight, hword, hword',
          show (8 : UInt64).toNat % 64 = 8 from rfl, Nat.shiftRight_eq_div_pow]
        omega
      rw [hshift, ih (by omega)]

theorem numberLE_bytesLE (n : Nat) (v : UInt64) : numberLE (bytesLE n v) = v.toNat % 256 ^ n := by
  induction n generalizing v with
  | zero => simp [bytesLE, numberLE, Nat.mod_one]
  | succ n ih =>
    have hhigh : (v >>> 8).toNat = v.toNat / 256 := by
      rw [UInt64.toNat_shiftRight, show (8 : UInt64).toNat % 64 = 8 from rfl,
        Nat.shiftRight_eq_div_pow]
    have hpow : 256 ^ (n + 1) = 256 * 256 ^ n := Nat.pow_succ'
    rw [bytesLE, numberLE, ih, hhigh, UInt64.toNat_toUInt8, hpow, Nat.mod_mul]

theorem toNat_and_mask (v : UInt64) (w : AccessWidth) :
    (v &&& w.mask).toNat = v.toNat % 256 ^ w.bytes := by
  rw [UInt64.toNat_and]
  cases w with
  | byte => exact Nat.and_two_pow_sub_one_eq_mod _ 8
  | word => exact Nat.and_two_pow_sub_one_eq_mod _ 16
  | dword => exact Nat.and_two_pow_sub_one_eq_mod _ 32
  | qword => exact Nat.and_two_pow_sub_one_eq_mod _ 64

theorem ofBytesLE_bytesLE (w : AccessWidth) (v : UInt64) :
    ofBytesLE (bytesLE w.bytes v) = v &&& w.mask := by
  have hle : (bytesLE w.bytes v).length ≤ 8 := by
    rw [length_bytesLE]
    exact w.bytes_le_eight
  rw [← UInt64.toNat_inj, toNat_ofBytesLE hle, numberLE_bytesLE, toNat_and_mask]

theorem unpack_bytesLE (w : AccessWidth) (v : UInt64) :
    unpack (bytesLE w.bytes v) w = v &&& w.mask := by
  rw [unpack, List.take_of_length_le (Nat.le_of_eq (length_bytesLE _ _)), ofBytesLE_bytesLE]

theorem bytesLE_eq_map (n : Nat) (v : UInt64) :
    bytesLE n v = (List.range n).map fun i => UInt8.ofNat (v.toNat / 256 ^ i) := by
  induction n generalizing v with
  | zero => rfl
  | succ n ih =>
    have hhigh : (v >>> 8).toNat = v.toNat / 256 := by
      rw [UInt64.toNat_shiftRight, show (8 : UInt64).toNat % 64 = 8 from rfl,
        Nat.shiftRight_eq_div_pow]
    rw [bytesLE, ih, List.range_succ_eq_map, List.map_cons, List.map_map, Nat.pow_zero, Nat.div_one]
    congr 1
    apply List.map_congr_left
    intro i _
    rw [hhigh, Nat.div_div_eq_div_mul, ← Nat.pow_succ']
    rfl

theorem bytesLE_and_mask (w : AccessWidth) (v : UInt64) :
    bytesLE w.bytes (v &&& w.mask) = bytesLE w.bytes v := by
  have hle : (bytesLE w.bytes v).length ≤ 8 := by
    rw [length_bytesLE]
    exact w.bytes_le_eight
  have hbytes := bytesLE_ofBytesLE hle
  rwa [length_bytesLE, ofBytesLE_bytesLE] at hbytes

theorem toUInt64_toUInt32_and_mask {bs : List UInt8} {w : AccessWidth} (h : bs.length = w.bytes)
    (hw : w ≠ .qword) :
    ((ofBytesLE bs).toUInt32 &&& w.mask.toUInt32).toUInt64 = ofBytesLE bs := by
  have hle : bs.length ≤ 8 := by
    rw [h]
    exact w.bytes_le_eight
  have hlt := numberLE_lt bs
  rw [h] at hlt
  have hmask : ∃ k, k ≤ 32 ∧ 256 ^ w.bytes = 2 ^ k ∧ w.mask.toUInt32.toNat = 2 ^ k - 1 := by
    cases w with
    | byte => exact ⟨8, by decide, by decide, by decide⟩
    | word => exact ⟨16, by decide, by decide, by decide⟩
    | dword => exact ⟨32, by decide, by decide, by decide⟩
    | qword => exact absurd rfl hw
  obtain ⟨k, hk, hbytes, hmask⟩ := hmask
  have hfits : 2 ^ k ≤ 2 ^ 32 := Nat.pow_le_pow_right (by decide) hk
  rw [hbytes] at hlt
  rw [← UInt64.toNat_inj, UInt32.toNat_toUInt64, UInt32.toNat_and, UInt64.toNat_toUInt32,
    toNat_ofBytesLE hle, hmask, Nat.and_two_pow_sub_one_eq_mod,
    Nat.mod_eq_of_lt (Nat.lt_of_lt_of_le hlt hfits), Nat.mod_eq_of_lt hlt]

end Lockdown
