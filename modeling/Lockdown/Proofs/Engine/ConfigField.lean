import Lockdown.Proofs.Engine.Writing

/-! Fields of registers in config space. A bit of such a register is a bit of a dword there, or of
none where a read runs past the end. A write of one or two bytes puts each bit back where the read
found it. A write of whole dwords does so only on a dword boundary: elsewhere the read shifts down
and the write does not shift up, and bits of the dword are lost. -/
namespace Lockdown

open Access

/-- Where a bit of what is read at a place lies, unless it is past the end of the dword. -/
def PciLocation.bit? (l : PciLocation) (i : Nat) : Option (PciLocation × Nat) :=
  if byteShift l.offset + i < 32 then some (l.dword, byteShift l.offset + i) else none

/-- Where a bit of a register lies in config space. The high half is in the next dword. -/
def configBit? (l : PciLocation) (width : AccessWidth) (i : Nat) : Option (PciLocation × Nat) :=
  if i < width.bits then if i < 32 then l.bit? i else l.next.bit? (i - 32) else none

def Simulator.configBit (s : Simulator) (k : PciLocation) (j : Nat) : Bool :=
  (s.config k).toNat.testBit j

/-- One or two bytes, or on a dword boundary: writes put bits where reads find them. -/
def PciLocation.Placed (l : PciLocation) (width : AccessWidth) : Prop :=
  width = .byte ∨ width = .word ∨ l.offset % 4 = 0

variable {l k : PciLocation} {width : AccessWidth} {i j : Nat}

namespace PciLocation

theorem bit?_eq_some : l.bit? i = some (k, j) ↔
    j < 32 ∧ k = l.dword ∧ byteShift l.offset + i = j := by
  unfold bit?
  split
  · rename_i h
    rw [Option.some.injEq, Prod.mk.injEq]
    exact ⟨fun ⟨hk, hj⟩ => ⟨hj ▸ h, hk.symm, hj⟩, fun ⟨_, hk, hj⟩ => ⟨hk.symm, hj⟩⟩
  · rename_i h
    refine iff_of_false nofun ?_
    rintro ⟨hj, -, rfl⟩
    exact h hj

theorem byteShift_next (l : PciLocation) : byteShift l.next.offset = byteShift l.offset := by
  change 8 * ((l.offset + 4).toNat % 4) = 8 * (l.offset.toNat % 4)
  rw [UInt32.toNat_add, show (4 : UInt32).toNat = 4 from rfl]
  omega

theorem Placed.byteShift_eq_zero (h : l.Placed .qword) : byteShift l.offset = 0 := by
  simpa [Placed, byteShift_eq_zero_iff] using h

end PciLocation

theorem configBit?_eq_some : configBit? l width i = some (k, j) ↔ i < width.bits ∧ j < 32 ∧
    (i < 32 ∧ k = l.dword ∧ byteShift l.offset + i = j ∨
      32 ≤ i ∧ k = l.next.dword ∧ byteShift l.offset + i = 32 + j) := by
  unfold configBit?
  by_cases hi : i < width.bits
  · by_cases hlow : i < 32
    · have hhigh : ¬ 32 ≤ i := Nat.not_le.2 hlow
      simp only [hi, hlow, hhigh, ↓reduceIte, PciLocation.bit?_eq_some, true_and, false_and,
        or_false]
    · have hhigh : 32 ≤ i := Nat.le_of_not_lt hlow
      have hsum : byteShift l.offset + (i - 32) = j ↔ byteShift l.offset + i = 32 + j := by omega
      simp only [hi, hlow, hhigh, ↓reduceIte, PciLocation.bit?_eq_some, l.byteShift_next, hsum,
        true_and, false_and, false_or]
  · simp only [hi, ↓reduceIte, reduceCtorEq, false_and]

theorem eq_qword_of_lt_bits (hi : 32 ≤ i) (h : i < width.bits) : width = .qword := by
  cases width with
  | qword => rfl
  | _ =>
    simp only [AccessWidth.bits, AccessWidth.bytes] at h
    omega

namespace Simulator

variable {s : Simulator} {v : UInt64}

theorem configAt_of_ne_qword (h : width ≠ .qword) :
    s.configAt l width =
      (narrow (s.dwordAt l) l.offset (UInt32.ofNat width.bytes)).toUInt64 := by
  cases width with
  | qword => exact absurd rfl h
  | _ => rfl

theorem testBit_narrow_dwordAt {size : UInt32} (hi : i < sizeBits size) :
    (narrow (s.dwordAt l) l.offset size).toNat.testBit i =
      s.configBit l.dword (byteShift l.offset + i) := by
  rw [testBit_narrow, decide_eq_true hi, Bool.true_and]
  rfl

theorem testBit_configAt (h : configBit? l width i = some (k, j)) :
    (s.configAt l width).toNat.testBit i = s.configBit k j := by
  have hfour : sizeBits 4 = 32 := rfl
  obtain ⟨hi, hj, ⟨hlow, rfl, rfl⟩ | ⟨hhigh, rfl, hsum⟩⟩ := configBit?_eq_some.1 h
  · by_cases hw : width = .qword
    · subst hw
      rw [configAt, testBit_joinAddress _ _ hi, if_pos hlow, testBit_narrow_dwordAt hlow]
    · rw [configAt_of_ne_qword hw, UInt32.toNat_toUInt64,
        testBit_narrow_dwordAt (by rwa [sizeBits_bytes hw])]
  · obtain rfl := eq_qword_of_lt_bits hhigh hi
    have hplace : byteShift l.next.offset + (i - 32) = j := by
      rw [l.byteShift_next]
      omega
    rw [configAt, testBit_joinAddress _ _ hi, if_neg (Nat.not_lt.2 hhigh),
      testBit_narrow_dwordAt (by rw [hfour]; omega), hplace]

theorem storeConfig_of_ne_qword (h : width ≠ .qword) :
    s.storeConfig l width v = s.setDword l.dword
      (merge (s.dwordAt l) l.offset (UInt32.ofNat width.bytes) v.toUInt32) := by
  cases width with
  | qword => exact absurd rfl h
  | _ => rfl

theorem configBit_setDword (s : Simulator) (l k : PciLocation) (w : UInt32) (j : Nat) :
    (s.setDword l w).configBit k j = if k = l then w.toNat.testBit j else s.configBit k j := by
  change (if k = l then w else s.config k).toNat.testBit j = _
  split <;> rfl

theorem configBit_storeConfig_of_ne_qword (hw : width ≠ .qword) (h : l.Placed width)
    (hj : j < 32) :
    (s.storeConfig l width v).configBit k j =
      if k = l.dword ∧ byteShift l.offset ≤ j ∧ j < byteShift l.offset + width.bits then
        v.toNat.testBit (j - byteShift l.offset)
      else s.configBit k j := by
  have hsize : UInt32.ofNat width.bytes = 1 ∨ UInt32.ofNat width.bytes = 2 ∨
      byteShift l.offset = 0 := by
    rcases h with rfl | rfl | h
    · exact .inl rfl
    · exact .inr (.inl rfl)
    · exact .inr (.inr ((byteShift_eq_zero_iff l.offset).2 h))
  rw [storeConfig_of_ne_qword hw, configBit_setDword]
  by_cases hk : k = l.dword
  · subst hk
    rw [if_pos rfl, testBit_merge_of_placed hsize _ _ hj, sizeBits_bytes hw,
      testBit_toUInt32 v (by omega)]
    simp only [true_and]
    rfl
  · rw [if_neg hk, if_neg fun hc => hk hc.1]

theorem configBit_storeConfig_qword (hj : j < 32) :
    (s.storeConfig l .qword v).configBit k j =
      if k = l.next.dword then v.toNat.testBit (32 + j)
      else if k = l.dword then v.toNat.testBit j else s.configBit k j := by
  rw [storeConfig, configBit_setDword, configBit_setDword, testBit_high v hj, testBit_toUInt32 v hj]

theorem configBit_storeConfig_shown (h : l.Placed width)
    (hi : configBit? l width i = some (k, j)) :
    (s.storeConfig l width v).configBit k j = v.toNat.testBit i := by
  obtain ⟨hbits, hj, hplace⟩ := configBit?_eq_some.1 hi
  by_cases hw : width = .qword
  · subst hw
    have hzero := h.byteShift_eq_zero
    rw [configBit_storeConfig_qword hj]
    obtain ⟨-, rfl, hsum⟩ | ⟨-, rfl, hsum⟩ := hplace
    · rw [if_neg l.dword_next_ne.symm, if_pos rfl, ← hsum, hzero, Nat.zero_add]
    · rw [if_pos rfl, ← hsum, hzero, Nat.zero_add]
  · rw [configBit_storeConfig_of_ne_qword hw h hj]
    obtain ⟨-, rfl, rfl⟩ | ⟨hhigh, -⟩ := hplace
    · rw [if_pos ⟨rfl, by omega, by omega⟩, Nat.add_sub_cancel_left]
    · exact absurd (eq_qword_of_lt_bits hhigh hbits) hw

theorem configBit_storeConfig_hidden (h : l.Placed width) (hj : j < 32)
    (hk : ∀ i, configBit? l width i ≠ some (k, j)) :
    (s.storeConfig l width v).configBit k j = s.configBit k j := by
  by_cases hw : width = .qword
  · subst hw
    have hzero := h.byteShift_eq_zero
    have hbits : AccessWidth.qword.bits = 64 := rfl
    have hlow : k ≠ l.dword := fun he =>
      hk j (configBit?_eq_some.2 ⟨by omega, hj, .inl ⟨hj, he, by omega⟩⟩)
    have hhigh : k ≠ l.next.dword := fun he =>
      hk (32 + j) (configBit?_eq_some.2 ⟨by omega, hj, .inr ⟨by omega, he, by omega⟩⟩)
    rw [configBit_storeConfig_qword hj, if_neg hhigh, if_neg hlow]
  · rw [configBit_storeConfig_of_ne_qword hw h hj, if_neg]
    rintro ⟨he, hfirst, hlast⟩
    exact hk (j - byteShift l.offset)
      (configBit?_eq_some.2 ⟨by omega, hj, .inl ⟨by omega, he, by omega⟩⟩)

theorem configBit_storeConfig_of_not_placed (h : ¬ l.Placed width) (hj : j < 32) :
    (s.storeConfig l width v).configBit l.dword j = v.toNat.testBit j := by
  cases width with
  | qword => rw [configBit_storeConfig_qword hj, if_neg l.dword_next_ne.symm, if_pos rfl]
  | dword =>
    rw [storeConfig_of_ne_qword (by decide), configBit_setDword, if_pos rfl,
      merge_of_whole (by decide) (by decide), testBit_toUInt32 v hj]
  | _ => simp [PciLocation.Placed] at h

/-- Bit 0 is set in every dword, and no other bit is. -/
def lowBits : Simulator := { ofThreads 1 with config := fun _ => 1 }

theorem configBit_lowBits (k : PciLocation) (j : Nat) :
    lowBits.configBit k j = decide (j = 0) := by
  change Nat.testBit (2 ^ 1 - 1) j = _
  rw [Nat.testBit_two_pow_sub_one, decide_eq_decide]
  omega

/-- A field goes in without touching any other bit, on every platform, just when the write puts bits
where the read found them. -/
theorem keeps_configBit_iff (l : PciLocation) (width : AccessWidth) (f : Field) :
    (∀ (s : Simulator) (v : UInt64) (k : PciLocation) (j : Nat), j < 32 →
      (∀ i, f.Covers i → configBit? l width i ≠ some (k, j)) →
      (s.storeConfig l width (f.insert (s.configAt l width) v)).configBit k j =
        s.configBit k j) ↔ l.Placed width := by
  constructor
  · intro h
    by_contra hnot
    have hshift : byteShift l.offset ≠ 0 := by
      intro hzero
      exact hnot (.inr (.inr ((byteShift_eq_zero_iff l.offset).1 hzero)))
    have hle := byteShift_le l.offset
    -- Bit 0 of the dword is none of the register's, which begins further up.
    have hfree : ∀ i, configBit? l width i ≠ some (l.dword, 0) := by
      intro i hi
      obtain ⟨hbits, -, hplace⟩ := configBit?_eq_some.1 hi
      omega
    have hfirst : configBit? l width 0 = some (l.dword, byteShift l.offset) :=
      configBit?_eq_some.2 ⟨by cases width <;> decide, by omega, .inl ⟨by decide, rfl, rfl⟩⟩
    have hread : (lowBits.configAt l width).toNat.testBit 0 = false := by
      rw [testBit_configAt hfirst, configBit_lowBits, decide_eq_false hshift]
    have hinserted : (f.insert (lowBits.configAt l width) 0).toNat.testBit 0 = false := by
      rw [Field.testBit_insert _ _ _ (by decide), hread]
      simp
    have hkept := h lowBits 0 l.dword 0 (by decide) fun i _ => hfree i
    rw [configBit_storeConfig_of_not_placed hnot (by decide), hinserted, configBit_lowBits] at hkept
    cases hkept
  · intro h s v k j hj hk
    by_cases hshown : ∃ i, configBit? l width i = some (k, j)
    · obtain ⟨i, hi⟩ := hshown
      have hout : ¬ f.Covers i := fun hc => hk i hc hi
      rw [configBit_storeConfig_shown h hi, Field.testBit_insert_of_not_covers _ _ hout,
        testBit_configAt hi]
    · exact configBit_storeConfig_hidden h hj fun i hi => hshown ⟨i, hi⟩

theorem config_storeConfig_other (hk : k ≠ l.dword) (hnext : width = .qword → k ≠ l.next.dword) :
    (s.storeConfig l width v).config k = s.config k := by
  cases width with
  | qword => exact (if_neg (hnext rfl)).trans (if_neg hk)
  | _ => exact if_neg hk

end Simulator

namespace Engine

variable {e : Engine} {name field : String} {r : Register} {f : Field}

theorem leads_writeField_config (hr : e.store.get? name = some r) (hf : r.field? field = some f)
    (hplace : r.configPlace? = some (l, width)) (s : Simulator) (v : UInt64) :
    Leads s (e.writeField name field v) (.ok (some (s.configAt l width)))
      (s.storeConfig l width (f.insert (s.configAt l width) v)) := by
  have hread : Yields s (e.read name) (.ok (s.configAt l width)) := by
    rw [← value_config hr hplace s]
    refine yields_read_alone hr ?_ ?_ s
    · obtain ⟨name', location, w, desc, fields⟩ := r
      cases location with
      | mmio => cases hplace
      | _ => rfl
    · obtain ⟨name', location, w, desc, fields⟩ := r
      cases location with
      | port => cases hplace
      | _ => rfl
  exact leads_writeField hr hf hread (leads_write_config hr hplace s _)

/-- A field write returns what was shown before and stores it with the field replaced, and only the
dwords of the register are written. Every bit outside the field stays, on every platform and for
every value, just when the register is one or two bytes wide or on a dword boundary. -/
theorem writeField_config_exact (hr : e.store.get? name = some r) (hf : r.field? field = some f)
    (hplace : r.configPlace? = some (l, width)) :
    (∀ (v : UInt64) (st : Session Simulator),
      let shown := st.platform.configAt l width
      let written := (e.writeField name field v).outcome st
      written.1 = .ok (some shown) ∧
      (st.platform.storeConfig l width (f.insert shown v)).Undisturbed written.2.platform ∧
      ∀ k, k ≠ l.dword → (width = .qword → k ≠ l.next.dword) →
        written.2.platform.config k = st.platform.config k) ∧
    ((∀ (v : UInt64) (st : Session Simulator) (k : PciLocation) (j : Nat), j < 32 →
      (∀ i, f.Covers i → configBit? l width i ≠ some (k, j)) →
      ((e.writeField name field v).outcome st).2.platform.configBit k j =
        st.platform.configBit k j) ↔ l.Placed width) := by
  have hconfig : ∀ (v : UInt64) (st : Session Simulator),
      ((e.writeField name field v).outcome st).2.platform.config =
        (st.platform.storeConfig l width (f.insert (st.platform.configAt l width) v)).config :=
    fun v st => (leads_writeField_config hr hf hplace st.platform v st (.refl _)).2.config_eq
  constructor
  · intro v st shown written
    obtain ⟨hresult, hafter⟩ := leads_writeField_config hr hf hplace st.platform v st (.refl _)
    refine ⟨hresult, hafter, fun k hk hnext => ?_⟩
    rw [hconfig, Simulator.config_storeConfig_other hk hnext]
  · rw [← Simulator.keeps_configBit_iff l width f]
    simp only [Simulator.configBit, hconfig]
    exact ⟨fun h s v => h v ⟨s, #[]⟩, fun h v st => h st.platform v⟩

def statusByte : Register :=
  .pci "STATUS" 0 31 5 0xDD .byte "" [("LOCK", ⟨1, 1, ""⟩)]

theorem writeField_config_exact_byte : ∃ s, Store.build "byte" [[statusByte]] = .ok s ∧
    s.get? "STATUS" = some statusByte ∧ statusByte.field? "LOCK" = some ⟨1, 1, ""⟩ ∧
    statusByte.configPlace? = some (⟨0, 31, 5, 0xDD⟩, .byte) ∧
    ∀ (v : UInt64) (st : Session Simulator) (k : PciLocation) (j : Nat), j < 32 →
      (k, j) ≠ (⟨0, 31, 5, 0xDC⟩, 9) →
      (((⟨s, 0⟩ : Engine).writeField "STATUS" "LOCK" v).outcome st).2.platform.configBit k j =
        st.platform.configBit k j := by
  obtain ⟨s, hs, hr⟩ := Store.exists_single "byte" statusByte (by decide +kernel)
  have hf : statusByte.field? "LOCK" = some ⟨1, 1, ""⟩ := rfl
  have hexact := writeField_config_exact (e := ⟨s, 0⟩) hr hf rfl
  refine ⟨s, hs, hr, hf, rfl, fun v st k j hj hother => ?_⟩
  refine hexact.2.2 (.inl rfl) v st k j hj fun i hi hbit => hother ?_
  obtain rfl : i = 1 := Nat.le_antisymm (Nat.le_of_lt_succ hi.2) hi.1
  exact (Option.some.inj hbit).symm

def straddling : Register :=
  .pci "STRADDLING" 0 31 2 0xAE .dword "" [("LOCK", ⟨0, 1, ""⟩)]

def oneDword : Simulator := (Simulator.ofThreads 1).populate ⟨0, 31, 2, 0xAC⟩ 0x12345678

/-- A clear bit is cleared, and the upper half of its dword moves into the lower half. -/
theorem writeField_config_loses : ∃ s, Store.build "straddling" [[straddling]] = .ok s ∧
    s.get? "STRADDLING" = some straddling ∧ straddling.field? "LOCK" = some ⟨0, 1, ""⟩ ∧
    configBit? ⟨0, 31, 2, 0xAE⟩ .dword 0 = some (⟨0, 31, 2, 0xAC⟩, 16) ∧
    oneDword.config ⟨0, 31, 2, 0xAC⟩ = 0x12345678 ∧
    (((⟨s, 0⟩ : Engine).writeField "STRADDLING" "LOCK" 0).outcome
      ⟨oneDword, #[]⟩).2.platform.config ⟨0, 31, 2, 0xAC⟩ = 0x1234 := by
  obtain ⟨s, hs, hr⟩ := Store.exists_single "straddling" straddling (by decide +kernel)
  have hf : straddling.field? "LOCK" = some ⟨0, 1, ""⟩ := rfl
  have hlead := leads_writeField_config (e := ⟨s, 0⟩) hr hf rfl oneDword 0
  have hstored : (oneDword.storeConfig ⟨0, 31, 2, 0xAE⟩ .dword ((⟨0, 1, ""⟩ : Field).insert
      (oneDword.configAt ⟨0, 31, 2, 0xAE⟩ .dword) 0)).config ⟨0, 31, 2, 0xAC⟩ = 0x1234 := by
    decide
  refine ⟨s, hs, hr, hf, by decide, by decide, ?_⟩
  exact (congrFun (hlead ⟨oneDword, #[]⟩ (.refl _)).2.config_eq _).trans hstored

end Engine

end Lockdown
