import Lockdown.Proofs.Engine.ReadBack

/-! Writes to config space that are taken back. A write returns what it replaced, and writing that
again is an undo just where writes put bits back where reads found them. Elsewhere the old value was
shifted down when it was read, and is stored without the shift. -/
namespace Lockdown

open Access

variable {l k : PciLocation} {width : AccessWidth} {s : Simulator}

namespace PciLocation

theorem dword_dword (l : PciLocation) : l.dword.dword = l.dword := by
  simp only [dword, UInt32.and_assoc, UInt32.and_self]

theorem byteShift_dword (l : PciLocation) : byteShift l.dword.offset = 0 := by
  have haligned : ((l.offset &&& 0xFC) &&& 3).toNat = 0 := by
    rw [UInt32.and_assoc, show (0xFC &&& 3 : UInt32) = 0 from rfl, UInt32.and_zero]
    rfl
  rw [UInt32.toNat_and, show (3 : UInt32).toNat = 2 ^ 2 - 1 from rfl,
    Nat.and_two_pow_sub_one_eq_mod] at haligned
  change 8 * ((l.offset &&& 0xFC).toNat % 4) = 0
  omega

end PciLocation

theorem Bus.yields_readPci_dword (s : Simulator) (l : PciLocation) :
    Yields s (readPci l.dword 4) (.ok (s.config l.dword)) := by
  have hwhole : narrow (s.dwordAt l.dword) l.dword.offset 4 = s.config l.dword := by
    apply dword_ext
    intro i hi
    have hsize : sizeBits 4 = 32 := rfl
    rw [testBit_narrow, hsize, decide_eq_true hi, Bool.true_and, l.byteShift_dword, Nat.zero_add,
      Simulator.dwordAt, l.dword_dword]
  rw [← hwhole]
  exact yields_readPci s l.dword 4

namespace Simulator

theorem storeConfig_eq (s : Simulator) (l : PciLocation) (width : AccessWidth) (v : UInt64) :
    s.storeConfig l width v = { s with config := (s.storeConfig l width v).config } := by
  cases width <;> rfl

theorem config_ext {t : Simulator} (h : ∀ k j, j < 32 → t.configBit k j = s.configBit k j) :
    t.config = s.config := by
  funext k
  exact dword_ext (h k)

/-- The old value goes back over the bits that it was read from, and the others were kept. -/
theorem storeConfig_storeConfig (h : l.Placed width) (s : Simulator) (v : UInt64) :
    (s.storeConfig l width v).storeConfig l width (s.configAt l width) = s := by
  have hconfig : ((s.storeConfig l width v).storeConfig l width (s.configAt l width)).config =
      s.config := by
    refine config_ext fun k j hj => ?_
    by_cases hshown : ∃ i, configBit? l width i = some (k, j)
    · obtain ⟨i, hi⟩ := hshown
      rw [configBit_storeConfig_shown h hi, testBit_configAt hi]
    · have hhidden : ∀ i, configBit? l width i ≠ some (k, j) := fun i hi => hshown ⟨i, hi⟩
      rw [configBit_storeConfig_hidden h hj hhidden, configBit_storeConfig_hidden h hj hhidden]
  rw [storeConfig_eq, hconfig, storeConfig_eq]

/-- Bit 0 of the dword is not read, and the value that is put back brings a zero there. -/
theorem configBit_lowBits_storeConfig (h : ¬ l.Placed width) (v : UInt64) :
    ((lowBits.storeConfig l width v).storeConfig l width (lowBits.configAt l width)).configBit
      l.dword 0 = false := by
  have hshift : byteShift l.offset ≠ 0 := by
    intro hzero
    exact h (.inr (.inr ((byteShift_eq_zero_iff l.offset).1 hzero)))
  have hle := byteShift_le l.offset
  have hfirst : configBit? l width 0 = some (l.dword, byteShift l.offset) :=
    configBit?_eq_some.2 ⟨by cases width <;> decide, by omega, .inl ⟨by decide, rfl, rfl⟩⟩
  rw [configBit_storeConfig_of_not_placed h (by decide), testBit_configAt hfirst,
    configBit_lowBits, decide_eq_false hshift]

end Simulator

namespace Engine

variable {e : Engine} {name : String} {r : Register}

def writeBack {σ : Type} [Bus σ] (e : Engine) (name : String) (v : UInt64) :
    Access σ (Option UInt64) := do
  match ← e.write name v with
  | some old => e.write name old
  | none => return none

theorem leads_writeBack (hr : e.store.get? name = some r)
    (hplace : r.configPlace? = some (l, width)) (s : Simulator) (v : UInt64) :
    Leads s (e.writeBack name v) (.ok (some ((s.storeConfig l width v).configAt l width)))
      ((s.storeConfig l width v).storeConfig l width (s.configAt l width)) :=
  (leads_write_config hr hplace s v).andThen (leads_write_config hr hplace _ _)

/-- A write in config space returns what a read just before would have returned. Writing that again
restores the whole platform up to the latch and the transaction log, so that every read of config
space is as before, when the register is one or two bytes wide or on a dword boundary; bytes that
fit in one dword, and eight bytes or an uncore register on a boundary, are cases of that. Any other
place has a platform where a read of its dword changes. -/
theorem writeBack_exact (hr : e.store.get? name = some r)
    (hplace : r.configPlace? = some (l, width)) :
    (∀ (v : UInt64) (st : Session Simulator), ∃ old,
      ((e.read name).outcome st).1 = .ok old ∧ ((e.write name v).outcome st).1 = .ok (some old)) ∧
    (l.Fits width → l.Placed width) ∧
    (l.Placed width → ∀ (v : UInt64) (st : Session Simulator),
      let after := (e.writeBack name v).outcome st
      (∃ previous, after.1 = .ok (some previous)) ∧
      st.platform.Undisturbed after.2.platform ∧
      ∀ (place : PciLocation) (size : UInt32),
        ((Bus.readPci place size).outcome after.2).1 = ((Bus.readPci place size).outcome st).1) ∧
    (¬ l.Placed width → ∀ v : UInt64, ∃ st : Session Simulator,
      ((Bus.readPci l.dword 4).outcome ((e.writeBack name v).outcome st).2).1 ≠
        ((Bus.readPci l.dword 4).outcome st).1) := by
  refine ⟨fun v st => ?_, PciLocation.Fits.placed, ?_, fun h v => ?_⟩
  · have hread := yields_read st.platform (avoidsConfigPorts_config hr hplace) st (.refl _)
    rw [value_config hr hplace] at hread
    exact ⟨_, hread.1, (leads_write_config hr hplace st.platform v st (.refl _)).1⟩
  · intro h v st after
    have hback := leads_writeBack hr hplace st.platform v st (.refl _)
    rw [Simulator.storeConfig_storeConfig h] at hback
    refine ⟨⟨_, hback.1⟩, hback.2, fun place size => ?_⟩
    have hread := Bus.yields_readPci st.platform place size
    rw [(hread after.2 hback.2).1, (hread st (.refl _)).1]
  · refine ⟨⟨Simulator.lowBits, #[]⟩, fun hsame => ?_⟩
    have hback :=
      (leads_writeBack hr hplace Simulator.lowBits v ⟨Simulator.lowBits, #[]⟩ (.refl _)).2
    rw [(Bus.yields_readPci_dword _ l _ hback).1,
      (Bus.yields_readPci_dword Simulator.lowBits l _ (.refl _)).1] at hsame
    have hlost := Simulator.configBit_lowBits_storeConfig h v
    rw [Simulator.configBit, Except.ok.inj hsame] at hlost
    have hset := Simulator.configBit_lowBits l.dword 0
    cases hset.symm.trans hlost

def wrapping : Register := .pci "WRAPPING" 0 31 2 0xFC .qword "" []

theorem writeBack_exact_wrapping : ∃ s, Store.build "wrapping" [[wrapping]] = .ok s ∧
    s.get? "WRAPPING" = some wrapping ∧
    wrapping.configPlace? = some (⟨0, 31, 2, 0xFC⟩, .qword) ∧
    PciLocation.Fits ⟨0, 31, 2, 0xFC⟩ .qword ∧
    ∀ (v : UInt64) (st : Session Simulator),
      ((Bus.readPci ⟨0, 31, 2, 0⟩ 4).outcome
        (((⟨s, 0⟩ : Engine).writeBack "WRAPPING" v).outcome st).2).1 =
        ((Bus.readPci ⟨0, 31, 2, 0⟩ 4).outcome st).1 := by
  obtain ⟨s, hs, hr⟩ := Store.exists_single "wrapping" wrapping (by decide +kernel)
  have hfits : PciLocation.Fits ⟨0, 31, 2, 0xFC⟩ .qword := .inr ⟨rfl, rfl⟩
  obtain ⟨-, hplaced, hback, -⟩ := writeBack_exact (e := ⟨s, 0⟩) hr rfl
  exact ⟨s, hs, hr, rfl, hfits, fun v st => (hback (hplaced hfits) v st).2.2 _ _⟩

end Engine

end Lockdown
