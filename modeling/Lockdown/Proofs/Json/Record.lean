import Lockdown.Json.Decode
import Lockdown.Proofs.Json.Literal

/-! Records that were written with all of their keys, and numbers and texts inside them. Reading
finds each value under its key. What is written of 64-bit words is in range of a double, since no
digit of it is left over. -/
namespace Lockdown.Json

theorem mapM_map_of_inverse {α β : Type} {f : β → Option α} {g : α → β} (h : ∀ a, f (g a) = some a)
    (l : List α) : (l.map g).mapM f = some l := by
  induction l with
  | nil => rfl
  | cons a l ih =>
    simp only [List.map_cons, List.mapM_cons, h, ih]
    rfl

theorem keyed?_record (members : List (String × Json)) :
    keyed? (members.map fun (k, v) => (some k, v)) = some members :=
  mapM_map_of_inverse (f := fun (m : Text × Json) => m.1.map (·, m.2))
    (g := fun (m : String × Json) => (some m.1, m.2)) (fun _ => rfl) members

theorem fields?_record {keys : List String} {members : List (String × Json)}
    (hkeys : members.map (·.1) = keys) (h : keys.Nodup) :
    fields? keys (record members) = some members := by
  subst hkeys
  have hknown : (members.filter fun (k, _) => (members.map (·.1)).contains k) = members := by
    rw [List.filter_eq_self]
    intro m hm
    rw [List.contains_iff_mem]
    exact List.mem_map_of_mem hm
  change (keyed? _).bind (known? _) = _
  rw [keyed?_record, Option.bind_some, known?, hknown, if_pos h]

theorem below?_ofNat {bound n : Nat} (h : n < bound) : below? bound (ofNat n) = some n := by
  simp only [below?, ofNat, Number.natural?, Number.ofNat, Bool.false_eq_true, ↓reduceIte,
    Option.bind_some, h]

theorem uint16?_ofNat (v : UInt16) : uint16? (ofNat v.toNat) = some v := by
  rw [uint16?, below?_ofNat v.toNat_lt, Option.map_some, UInt16.ofNat_toNat]

theorem uint32?_ofNat (v : UInt32) : uint32? (ofNat v.toNat) = some v := by
  rw [uint32?, below?_ofNat v.toNat_lt, Option.map_some, UInt32.ofNat_toNat]

theorem uint64?_ofNat (v : UInt64) : uint64? (ofNat v.toNat) = some v := by
  rw [uint64?, below?_ofNat v.toNat_lt, Option.map_some, UInt64.ofNat_toNat]

theorem string?_ofString (s : String) : string? (ofString s) = some s := rfl

theorem nullable?_ofOption (o : Option String) : nullable? string? (ofOption o) = some o := by
  cases o <;> rfl

theorem leading_of_lt {ds : List Char} {v : Nat} (h : Nat.ofDigitChars 10 ds v < UInt64.size) :
    Number.leading v ds = (Nat.ofDigitChars 10 ds v, 0) := by
  induction ds generalizing v with
  | nil => rfl
  | cons d ds ih =>
    rw [Nat.ofDigitChars_cons] at h ⊢
    -- A value only grows with the digits after it.
    have hnext : v * 10 + (d.toNat - '0'.toNat) < UInt64.size := by
      rw [Nat.ofDigitChars_eq_ofDigitChars_zero] at h
      have hgrow := Nat.le_mul_of_pos_left (10 * v + (d.toNat - '0'.toNat))
        (Nat.pow_pos (n := ds.length) (show 0 < 10 by decide))
      omega
    rw [Nat.mul_comm 10 v] at h ⊢
    simp only [Number.leading, hnext, ↓reduceIte]
    exact ih h

theorem finite_ofNat {n : Nat} (h : n < UInt64.size) : (Number.ofNat n).finite = true := by
  have hvalue : Nat.ofDigitChars 10 (Nat.toDigits 10 n) 0 = n := Nat.ofDigitChars_ten_toDigits
  have hleading := leading_of_lt (hvalue.symm ▸ h)
  simp only [Number.finite, Number.ofNat, hleading]
  simp

theorem sound_ofOption (o : Option String) : (ofOption o).sound = true := by
  cases o <;> rfl

theorem depth_ofOption (o : Option String) : (ofOption o).depth = 0 := by
  cases o <;> rfl

end Lockdown.Json
