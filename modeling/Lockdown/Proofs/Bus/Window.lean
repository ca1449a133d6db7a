import Lockdown.Proofs.Bus.Writing

/-! The data window of the config mechanism, used by port. The window decodes shifts and masks on
its own, and shows and stores the bytes that an access to config space does. It ends with the dword,
so a read that begins in it and runs past its end is cut there, as an unaligned one in config space
is, and that also where the latch is disabled and nothing answers. -/
namespace Lockdown

open Access

def windowPort (offset : UInt32) : UInt16 := ConfigAddress.dataPort + (offset % 4).toUInt16

theorem byte_cases (offset : UInt32) :
    offset % 4 = 0 ∨ offset % 4 = 1 ∨ offset % 4 = 2 ∨ offset % 4 = 3 := by
  have hlt : (offset % 4).toNat < 4 := by
    rw [UInt32.toNat_mod]
    exact Nat.mod_lt _ (by decide)
  simp only [← UInt32.toNat_inj, UInt32.toNat_zero, UInt32.toNat_one,
    show (2 : UInt32).toNat = 2 from rfl, show (3 : UInt32).toNat = 3 from rfl]
  omega

theorem exists_portWidth {size : UInt32} (h : size = 1 ∨ size = 2 ∨ size = 4) :
    ∃ w : AccessWidth, w ≠ .qword ∧ size = UInt32.ofNat w.bytes := by
  rcases h with rfl | rfl | rfl
  · exact ⟨.byte, by decide, rfl⟩
  · exact ⟨.word, by decide, rfl⟩
  · exact ⟨.dword, by decide, rfl⟩

theorem toNat_ofNat_portBytes (w : AccessWidth) : (UInt32.ofNat w.bytes).toNat = w.bytes := by
  cases w <;> rfl

theorem narrow_eq_and_mask {w : AccessWidth} (hw : w ≠ .qword) (dword offset : UInt32) :
    narrow dword offset (UInt32.ofNat w.bytes) =
      (dword >>> (offset % 4 * 8)) &&& w.mask.toUInt32 := by
  cases w with
  | byte => rfl
  | word => rfl
  | dword => exact (UInt32.and_neg_one).symm
  | qword => exact absurd rfl hw

namespace Simulator

variable {s : Simulator} {k : PciLocation} {w : AccessWidth}

theorem isWindow_windowPort (offset : UInt32) : isWindow (windowPort offset) = true := by
  unfold windowPort
  rcases byte_cases offset with h | h | h | h <;> rw [h] <;> decide

theorem isLatch_windowPort (offset : UInt32) (w : AccessWidth) :
    isLatch (windowPort offset) w = false := by
  unfold windowPort
  rcases byte_cases offset with h | h | h | h <;> rw [h] <;> cases w <;> decide

theorem windowShift_windowPort (offset : UInt32) :
    windowShift (windowPort offset) = offset % 4 * 8 := by
  unfold windowPort
  rcases byte_cases offset with h | h | h | h <;> rw [h] <;> decide

theorem portValue_windowPort (s : Simulator) (offset : UInt32) (w : AccessWidth) :
    s.portValue (windowPort offset) w =
      (s.windowDword >>> (offset % 4 * 8)) &&& w.mask.toUInt32 := by
  simp only [portValue, isLatch_windowPort, isWindow_windowPort, windowShift_windowPort,
    Bool.false_eq_true, ↓reduceIte]

theorem windowDword_of_selected (h : s.selected? = some k) : s.windowDword = s.config k := by
  rw [windowDword, h]

theorem portOut_windowPort (h : s.selected? = some k) (offset : UInt32) (w : AccessWidth)
    (value : UInt32) :
    s.portOut (windowPort offset) w (value &&& w.mask.toUInt32) =
      (s.record .portWrite (windowPort offset).toUInt64 w).setDword k
        ((s.config k &&& ~~~(w.mask.toUInt32 <<< (offset % 4 * 8))) |||
          ((value &&& w.mask.toUInt32) <<< (offset % 4 * 8))) := by
  have hrecorded : (s.record .portWrite (windowPort offset).toUInt64 w).selected? = some k := h
  simp only [portOut, setPort, isLatch_windowPort, isWindow_windowPort, windowShift_windowPort,
    hrecorded, Bool.false_eq_true, ↓reduceIte, ← UInt32.shiftLeft_and, UInt32.and_assoc,
    UInt32.and_self]
  rfl

/-- What the window stores is what a write to config space makes of the dword. -/
theorem portOut_windowPort_eq_merge (h : s.selected? = some k) {offset : UInt32}
    (hw : w = .byte ∨ w = .word ∨ w = .dword ∧ offset % 4 = 0) (value : UInt32) :
    s.portOut (windowPort offset) w (value &&& w.mask.toUInt32) =
      (s.record .portWrite (windowPort offset).toUInt64 w).setDword k
        (merge (s.config k) offset (UInt32.ofNat w.bytes) value) := by
  rw [portOut_windowPort h]
  rcases hw with rfl | rfl | ⟨rfl, hzero⟩
  · rw [merge_eq_of_narrow (.inl rfl)]
  · rw [merge_eq_of_narrow (.inr rfl)]
  · have hmask : AccessWidth.dword.mask.toUInt32 = -1 := by decide
    rw [merge_of_whole (by decide) (by decide), hzero, hmask]
    simp only [UInt32.zero_mul, UInt32.shiftLeft_zero, UInt32.not_neg_one, UInt32.and_zero,
      UInt32.and_neg_one, UInt32.zero_or]

theorem Undisturbed.of_common {a b : Simulator} (ha : s.Undisturbed a) (hb : s.Undisturbed b) :
    a.Undisturbed b := by
  obtain ⟨_, _, rfl⟩ := ha
  obtain ⟨latch, log, rfl⟩ := hb
  exact ⟨latch, log, rfl⟩

theorem portOut_latch (s : Simulator) (value : UInt32) :
    s.portOut ConfigAddress.port .dword value =
      { s.record .portWrite ConfigAddress.port.toUInt64 .dword with latch := value } := rfl

theorem selected?_eq_none (h : s.latch &&& 0x80000000 = 0) : s.selected? = none := by
  simp only [selected?, ConfigAddress.decode, ConfigAddress.selected?, h, bne_self_eq_false,
    Bool.false_eq_true, ↓reduceIte]

theorem portValue_of_disabled (h : s.latch &&& 0x80000000 = 0) (offset : UInt32)
    (hw : w ≠ .qword) :
    s.portValue (windowPort offset) w =
      UInt32.ofNat (256 ^ min w.bytes (4 - offset.toNat % 4) - 1) := by
  have hnothing : s.windowDword = 0xFFFFFFFF := by rw [windowDword, selected?_eq_none h]
  have hbyte : offset.toNat % 4 = (offset % 4).toNat := (UInt32.toNat_mod offset 4).symm
  rw [portValue_windowPort, hnothing, hbyte]
  cases w with
  | qword => exact absurd rfl hw
  | _ => rcases byte_cases offset with h | h | h | h <;> rw [h] <;> decide

theorem portOut_of_disabled (h : s.latch &&& 0x80000000 = 0) (offset : UInt32) (w : AccessWidth)
    (value : UInt32) :
    s.portOut (windowPort offset) w value = s.record .portWrite (windowPort offset).toUInt64 w := by
  have hrecorded : (s.record .portWrite (windowPort offset).toUInt64 w).selected? = none :=
    selected?_eq_none h
  simp only [portOut, setPort, isLatch_windowPort, isWindow_windowPort, hrecorded,
    Bool.false_eq_true, ↓reduceIte]

end Simulator

namespace Bus

variable {w : AccessWidth}

theorem outcome_readPort (hw : w ≠ .qword) (port : UInt16) (st : Session Simulator) :
    ((readPort port (UInt32.ofNat w.bytes)).outcome st).1 =
      .ok (st.platform.portValue port w) := by
  unfold readPort
  rw [portWidth_bytes hw]
  rfl

theorem outcome_writePort (hw : w ≠ .qword) (port : UInt16) (value : UInt32)
    (st : Session Simulator) :
    let written := (writePort port value (UInt32.ofNat w.bytes)).outcome st
    written.1 = .ok () ∧
      written.2.platform = st.platform.portOut port w (value &&& w.mask.toUInt32) := by
  unfold writePort
  rw [portWidth_bytes hw]
  exact ⟨rfl, rfl⟩

theorem outcome_programmed (previous : UInt32) (l : PciLocation) (st : Session Simulator) :
    let programmed :=
      (writePort ConfigAddress.port (ConfigAddress.forCycle previous l).encode 4).outcome st
    programmed.1 = .ok () ∧ st.platform.Undisturbed programmed.2.platform ∧
      programmed.2.platform.selected? = some l.dword := by
  intro programmed
  obtain ⟨hresult, hplatform⟩ := outcome_writePort (w := .dword) (by decide) ConfigAddress.port
    (ConfigAddress.forCycle previous l).encode st
  have hmask : AccessWidth.dword.mask.toUInt32 = -1 := by decide
  rw [hmask, UInt32.and_neg_one, Simulator.portOut_latch] at hplatform
  refine ⟨hresult, ⟨_, _, hplatform⟩, ?_⟩
  have hlatch : programmed.2.platform.latch = (ConfigAddress.forCycle previous l).encode :=
    congrArg Simulator.latch hplatform
  rw [Simulator.selected?, hlatch, ConfigAddress.selected?_forCycle]

section

variable {size : UInt32}

theorem readPort_of_selected {l : PciLocation} {st : Session Simulator}
    (h : st.platform.selected? = some l.dword) (hsize : size = 1 ∨ size = 2 ∨ size = 4) :
    ∃ value, ((readPort (windowPort l.offset) size).outcome st).1 = .ok value ∧
      ((readPci l size).outcome st).1 = .ok value := by
  obtain ⟨w, hw, rfl⟩ := exists_portWidth hsize
  have hread := yields_readPci st.platform l (UInt32.ofNat w.bytes) st (.refl _)
  refine ⟨_, ?_, hread.1⟩
  rw [outcome_readPort hw, Simulator.portValue_windowPort, Simulator.windowDword_of_selected h,
    narrow_eq_and_mask hw]
  rfl

theorem writePort_of_selected {l : PciLocation} {st : Session Simulator}
    (h : st.platform.selected? = some l.dword)
    (hsize : size = 1 ∨ size = 2 ∨ size = 4 ∧ l.offset % 4 = 0) (value : UInt32) :
    let byPort := (writePort (windowPort l.offset) value size).outcome st
    let byPci := (writePci l value size).outcome st
    byPort.1 = .ok () ∧ (∃ old, byPci.1 = .ok old) ∧
      byPci.2.platform.Undisturbed byPort.2.platform := by
  intro byPort byPci
  obtain ⟨w, hw, hplace, rfl⟩ : ∃ w : AccessWidth, w ≠ .qword ∧
      (w = .byte ∨ w = .word ∨ w = .dword ∧ l.offset % 4 = 0) ∧ size = UInt32.ofNat w.bytes := by
    rcases hsize with rfl | rfl | ⟨rfl, hzero⟩
    · exact ⟨.byte, by decide, .inl rfl, rfl⟩
    · exact ⟨.word, by decide, .inr (.inl rfl), rfl⟩
    · exact ⟨.dword, by decide, .inr (.inr ⟨rfl, hzero⟩), rfl⟩
  obtain ⟨hport, hplatform⟩ := outcome_writePort hw (windowPort l.offset) value st
  obtain ⟨hpci, hafter⟩ :=
    leads_writePci st.platform l value (UInt32.ofNat w.bytes) st (.refl _)
  have hstored : (st.platform.setDword l.dword
      (merge (st.platform.dwordAt l) l.offset (UInt32.ofNat w.bytes) value)).Undisturbed
        byPort.2.platform := by
    rw [hplatform, Simulator.portOut_windowPort_eq_merge h hplace]
    exact ⟨_, _, rfl⟩
  exact ⟨hport, ⟨_, hpci⟩, hafter.of_common hstored⟩

theorem readPort_of_disabled {st : Session Simulator} (h : st.platform.latch &&& 0x80000000 = 0)
    (hsize : size = 1 ∨ size = 2 ∨ size = 4) (offset : UInt32) :
    ((readPort (windowPort offset) size).outcome st).1 =
      .ok (UInt32.ofNat (256 ^ min size.toNat (4 - offset.toNat % 4) - 1)) := by
  obtain ⟨w, hw, rfl⟩ := exists_portWidth hsize
  rw [outcome_readPort hw, Simulator.portValue_of_disabled h offset hw, toNat_ofNat_portBytes]

theorem writePort_of_disabled {st : Session Simulator} (h : st.platform.latch &&& 0x80000000 = 0)
    (hsize : size = 1 ∨ size = 2 ∨ size = 4) (offset value : UInt32) :
    let written := (writePort (windowPort offset) value size).outcome st
    written.1 = .ok () ∧
      ∃ log, written.2.platform = { st.platform with transactions := log } := by
  obtain ⟨w, hw, rfl⟩ := exists_portWidth hsize
  obtain ⟨hport, hplatform⟩ := outcome_writePort hw (windowPort offset) value st
  rw [Simulator.portOut_of_disabled h] at hplatform
  exact ⟨hport, _, hplatform⟩

end

/-- Once the latch is programmed for a place, the window shows at the place's byte what a read of
config space shows, in each size, and stores what a write stores, in each size that a write puts
back where a read finds it. While the latch is disabled the window shows all ones, in as many of the
bytes asked for as it has from that port on, and what is written to it changes nothing but the
transaction log. -/
theorem window_exact (previous : UInt32) (l : PciLocation) (st : Session Simulator) :
    let programmed :=
      (writePort ConfigAddress.port (ConfigAddress.forCycle previous l).encode 4).outcome st
    programmed.1 = .ok () ∧ st.platform.Undisturbed programmed.2.platform ∧
    (∀ size, size = 1 ∨ size = 2 ∨ size = 4 → ∃ value,
      ((readPort (windowPort l.offset) size).outcome programmed.2).1 = .ok value ∧
      ((readPci l size).outcome programmed.2).1 = .ok value) ∧
    (∀ value size, size = 1 ∨ size = 2 ∨ size = 4 ∧ l.offset % 4 = 0 →
      let byPort := (writePort (windowPort l.offset) value size).outcome programmed.2
      let byPci := (writePci l value size).outcome programmed.2
      byPort.1 = .ok () ∧ (∃ old, byPci.1 = .ok old) ∧
      byPort.2.platform.config = byPci.2.platform.config ∧
      byPci.2.platform.Undisturbed byPort.2.platform) ∧
    (st.platform.latch &&& 0x80000000 = 0 → ∀ offset size, size = 1 ∨ size = 2 ∨ size = 4 →
      ((readPort (windowPort offset) size).outcome st).1 =
        .ok (UInt32.ofNat (256 ^ min size.toNat (4 - offset.toNat % 4) - 1)) ∧
      ∀ value,
        let written := (writePort (windowPort offset) value size).outcome st
        written.1 = .ok () ∧
          ∃ log, written.2.platform = { st.platform with transactions := log }) := by
  intro programmed
  obtain ⟨hresult, hsame, hselected⟩ := outcome_programmed previous l st
  refine ⟨hresult, hsame, ?_, ?_, ?_⟩
  · intro size hsize
    exact readPort_of_selected hselected hsize
  · intro value size hsize byPort byPci
    obtain ⟨hport, hpci, hboth⟩ := writePort_of_selected hselected hsize value
    exact ⟨hport, hpci, hboth.config_eq, hboth⟩
  · intro hdisabled offset size hsize
    exact ⟨readPort_of_disabled hdisabled hsize offset,
      fun value => writePort_of_disabled hdisabled hsize offset value⟩

/-- Of the four bytes from the second port on the window has three; the fourth reads as zero. -/
theorem window_disabled_cut :
    let st : Session Simulator := ⟨Simulator.ofThreads 1, #[]⟩
    st.platform.latch &&& 0x80000000 = 0 ∧ windowPort 1 = 0xCFD ∧
    ((readPort (windowPort 1) 4).outcome st).1 = .ok 0xFFFFFF ∧
    (0xFFFFFF : UInt32) ≠ AccessWidth.dword.mask.toUInt32 := by
  intro st
  refine ⟨by decide, by decide, ?_, by decide⟩
  exact (outcome_readPort (w := .dword) (by decide) (windowPort 1) st).trans
    (congrArg Except.ok (by decide))

end Bus

end Lockdown
